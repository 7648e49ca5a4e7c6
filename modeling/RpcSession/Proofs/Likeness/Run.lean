import RpcSession.Proofs.Likeness.Basic

/-!
# Runs keep a likeness

A likeness that each step upholds is respected by every function that takes several steps, and so
by every operation, program and series of operations.
-/

namespace RpcSession.Session

open Likeness

variable {α : Type} {likeness : Likeness} {invoke : Invoke}

theorem takeReady_eq :
    takeReady = (do
      match (← Action.get).loop.ready with
      | [] => return none
      | next :: ready =>
          Action.modify fun session => { session with loop := { session.loop with ready } }
          return some next) := by
  funext session
  rw [takeReady, Action.get_bind_apply]
  cases session.loop.ready <;> rfl

theorem launch_of_launcher {session : Session} {launcher : Program}
    (byHost : session.launcher = some launcher)
    (logging : ∀ entry, likeness.Respects (record (.logged entry)))
    (admitted : likeness.Admits invoke) :
    ∃ launched, launch invoke session = launched session ∧ likeness.Respects launched := by
  rw [launch, Action.get_bind_apply, byHost]
  refine ⟨_, rfl, (admitted launcher).recover fun failure => ?_⟩
  exact (Respects.ofExcept _).bind fun reason => (logging _).bind fun _ => .fail _

theorem start_respects (noting : ∀ event, likeness.Respects (record event))
    (numbering : likeness.Respects (takeIdentifier .session))
    (beginning : ∀ identifier, likeness.Respects (Action.modify fun session =>
      { session with lifecycle := session.lifecycle.begin identifier }))
    (admitted : likeness.Admits invoke) : likeness.Respects (start invoke) := by
  have launched : likeness.Respects (launch invoke) := by
    refine .get (fun session => ?_) fun _ _ _ => rfl
    split
    · exact numbering.map _
    · exact (admitted _).recover fun failure => (Respects.ofExcept _).bind fun reason =>
        (noting _).bind fun _ => .fail _
  refine .get (fun session => ?_) fun _ _ _ => rfl
  split
  · exact .fail _
  · split
    · exact (noting _).bind fun _ => .of_pure _
    · refine launched.bind fun identifier => (noting _).bind fun _ => ?_
      split
      · exact (noting _).bind fun _ => .fail _
      · exact (beginning identifier).bind fun _ => (noting _).bind fun _ =>
          (noting _).bind fun _ => .of_pure _

theorem terminate_respects (noting : ∀ event, likeness.Respects (record event))
    (ending : likeness.Respects (Action.modify fun session =>
      { session with lifecycle := session.lifecycle.terminate })) :
    likeness.Respects terminate := by
  refine .get (fun session => ?_) fun _ _ _ => rfl
  split
  · exact .of_pure ()
  · exact ending.bind fun _ => (noting _).bind fun _ => noting _

theorem find_respects (name : String) (wanted : Reference → Option α) :
    likeness.Respects (find name wanted) := by
  refine .get (fun session => ?_) fun _ _ _ => rfl
  split
  · exact .of_pure _
  · exact .fail _

theorem found_respects {name : String} {wanted : Reference → Option α}
    {action : α → Action Session Unit} {reply : Reply}
    (respects : ∀ found, likeness.Respects (action found)) :
    likeness.Respects (do action (← find name wanted); return reply) :=
  (find_respects name wanted).bind fun found => (respects found).bind fun _ => .of_pure _

theorem bound_respects {action : Action Session α} {name : String} {reference : α → Reference}
    {reply : α → Reply} (respects : likeness.Respects action)
    (kept : ∀ made, likeness.Respects (bindName name (reference made))) :
    likeness.Respects
      (do let made ← action; bindName name (reference made); return reply made) :=
  respects.bind fun made => (kept made).bind fun _ => .of_pure _

def Reference.request? : Reference → Option (Int × Bool)
  | .request identifier handled => some (identifier, handled)
  | _ => none

def reportUnder (session : Session) (name : String) : Option RequestReport := do
  let (identifier, handled) ← session.reference? name Reference.request?
  let outcome ← session.outcome? identifier
  return { identifier, handled, outcome }

theorem findRequest_apply (name : String) (session : Session) :
    findRequest name session = (match session.reportUnder name with
      | some report => .value report
      | none => .failed (.unknownName name), session) := by
  have looked : find name Reference.request? session =
      (match session.reference? name Reference.request? with
        | some found => .value found
        | none => .failed (.unknownName name), session) := by
    rw [find, Action.get_bind_apply]
    cases session.reference? name Reference.request? <;> rfl
  have steps : findRequest name session = (find name Reference.request? >>= _) session := rfl
  rw [steps, Action.bind_apply, looked, reportUnder]
  cases session.reference? name Reference.request? with
  | none => rfl
  | some found =>
      dsimp only
      rw [Action.get_bind_apply]
      cases known : session.outcome? found.1 <;> simp [known]

theorem findRequest_state (name : String) (session : Session) :
    (findRequest name session).2 = session := by rw [findRequest_apply]

theorem findProgress_respects (name : String) : likeness.Respects (findProgress name) := by
  refine (find_respects _ _).bind fun token => .get (fun session => ?_) fun _ _ _ => rfl
  split
  · exact .of_pure _
  · exact .fail _

theorem readCell_respects (cell : String) : likeness.Respects (readCell cell) :=
  .get (fun _ => .of_pure _) fun _ _ _ => rfl

theorem inspectTimer_respects {fuel : Nat} (name : String) :
    likeness.Respects (perform fuel (.inspectTimer name)) := by
  refine (find_respects _ _).bind fun index => .get (fun session => ?_) fun _ _ _ => rfl
  split
  · exact .of_pure _
  · exact .fail _

namespace Likeness.Upheld

variable (upheld : likeness.Upheld)

include upheld

/-! ## Progress and timers -/

theorem log (level : Logging.Level) (logger message : String)
    (failure : Option Failure := none) :
    likeness.Respects (log level logger message failure) := upheld.noting _ rfl

theorem emit (admitted : likeness.Admits invoke) (progress : Progress) :
    likeness.Respects (emit invoke progress) := by
  refine .get (fun session => ?_) fun _ _ _ => rfl
  dsimp only
  split
  · exact upheld.log _ _ _
  · exact (upheld.log _ _ _).bind fun _ => (upheld.noting (.sent progress) rfl).bind fun _ =>
      (admitted _).bind fun _ => .of_pure ()

theorem reject (progress : Progress) (operation : String) :
    likeness.Respects (reject progress operation) := by
  refine .get (fun session => ?_) fun _ _ _ => rfl
  split
  · exact .fail _
  · exact upheld.log _ _ _

theorem setProgress (progress : Progress) : likeness.Respects (setProgress progress) :=
  upheld.changing _ fun _ _ _ => rfl

theorem begin (admitted : likeness.Admits invoke) (title message percentage : Value) :
    likeness.Respects (begin invoke title message percentage) := by
  refine .get (fun session => ?_) fun _ _ _ => rfl
  refine (upheld.noting (.progressAsked percentage _) rfl).bind fun _ =>
    (Respects.ofExcept _).bind fun percentage => ?_
  split
  · exact .fail _
  · refine (upheld.numbering .progress (.inr rfl)).bind fun token => ?_
    exact (upheld.changing _ fun _ _ _ => rfl).bind fun _ =>
      (upheld.noting (.begun token title) rfl).bind fun _ =>
        (upheld.emit admitted _).bind fun _ => .of_pure token

theorem mergeFields (admitted : likeness.Admits invoke) (progress : Progress)
    (fields : List (String × Value)) :
    likeness.Respects (mergeFields invoke progress fields) := by
  rcases mergeFields_cases invoke progress fields with
    ⟨_, same⟩ | ⟨_, ⟨failure, _, same⟩ | ⟨updated, _, same⟩⟩ <;> rw [same]
  · exact .of_pure ()
  · exact .fail failure
  · exact (upheld.setProgress updated).bind fun _ => upheld.emit admitted updated

theorem update (admitted : likeness.Admits invoke) (progress : Progress)
    (fields : List (String × Value)) : likeness.Respects (update invoke progress fields) := by
  unfold Session.update
  split
  · exact upheld.reject _ _
  · dsimp only
    split
    · exact (upheld.log _ _ _).bind fun _ => upheld.mergeFields admitted progress fields
    · exact upheld.mergeFields admitted progress fields

theorem finish (admitted : likeness.Admits invoke) (progress : Progress) (message : Value) :
    likeness.Respects (finish invoke progress message) := by
  unfold Session.finish
  split
  · exact upheld.reject _ _
  · exact (upheld.setProgress _).bind fun _ => upheld.emit admitted _

theorem modifyTimer (index : Nat) (change : Timer → Timer) :
    likeness.Respects (modifyTimer index change) :=
  upheld.changing _ fun _ _ _ => rfl

theorem createTimer (interval : Float) (delay : Option Float) (callback : TimerCallback) :
    likeness.Respects (createTimer interval delay callback) := by
  unfold Session.createTimer
  split
  · exact .fail _
  · refine .get (fun session => ?_) fun _ _ _ => rfl
    exact (upheld.changing _ fun _ _ _ => rfl).bind fun _ => .of_pure _

theorem scheduleTick (index : Nat) (seconds : Float) :
    likeness.Respects (scheduleTick index seconds) := by
  refine .get (fun session => ?_) fun _ _ _ => rfl
  exact (upheld.changing _ fun _ _ _ => rfl).bind fun _ =>
    upheld.modifyTimer index _

theorem cancelTick (order : Nat) : likeness.Respects (cancelTick order) :=
  upheld.changing _ fun _ _ _ => rfl

theorem startTimer (index : Nat) : likeness.Respects (startTimer index) := by
  refine .get (fun session => ?_) fun _ _ _ => rfl
  split
  · exact .of_pure ()
  · split
    · exact .of_pure ()
    · exact upheld.scheduleTick _ _

theorem stopTimer (index : Nat) : likeness.Respects (stopTimer index) := by
  refine .get (fun session => ?_) fun _ _ _ => rfl
  have stopped : likeness.Respects (do
      Session.modifyTimer index fun timer => { timer with stopped := true, pending := none }
      record (.timerStopped index)) :=
    (upheld.modifyTimer index _).bind fun _ => upheld.noting (.timerStopped index) rfl
  split
  · exact .of_pure ()
  · dsimp only
    split
    · exact (upheld.cancelTick _).bind fun _ => stopped
    · exact (Respects.of_pure ()).bind fun _ => stopped

theorem indexFile (admitted : likeness.Admits invoke) (timer : Nat) (token files : Int)
    (onFinish : Option Program) (indexed : Nat) :
    likeness.Respects (indexFile invoke timer token files onFinish indexed) := by
  refine .get (fun session => ?_) fun _ _ _ => rfl
  split
  · exact upheld.stopTimer _
  · split
    · exact .of_pure ()
    · refine (Respects.ofExcept _).bind fun percentage =>
        (upheld.update admitted _ _).bind fun _ => ?_
      refine .get (fun session => ?_) fun _ _ _ => rfl
      split
      · exact .of_pure ()
      · split
        · refine (upheld.finish admitted _ _).bind fun _ => (upheld.stopTimer _).bind fun _ =>
            (upheld.log _ _ _).bind fun _ => (upheld.noting (.indexed token) rfl).bind fun _ => ?_
          cases onFinish with
          | none => exact .of_pure ()
          | some callback => exact (admitted callback).bind fun _ => .of_pure ()
        · exact .of_pure ()

theorem runTimerCallback (admitted : likeness.Admits invoke) (timer : Nat)
    (callback : TimerCallback) (ticks : Nat) :
    likeness.Respects (runTimerCallback invoke timer callback ticks) := by
  cases callback with
  | host callback => exact (admitted callback).bind fun _ => .of_pure ()
  | indexing token files onFinish => exact upheld.indexFile admitted _ _ _ _ _

theorem finishTick (index : Nat) (outcome : Except Failure Unit) :
    likeness.Respects (finishTick index outcome) := by
  refine .get (fun session => (upheld.noting (.tickReturned _ _ _) rfl).bind fun _ => ?_)
    fun _ _ _ => rfl
  cases outcome with
  | ok =>
      dsimp only
      split
      · split
        · exact .of_pure ()
        · exact upheld.scheduleTick _ _
      · exact .of_pure ()
  | error failure =>
      dsimp only
      split
      · exact (upheld.log _ _ _ _).bind fun _ => upheld.stopTimer _
      · exact .fail failure

theorem tick {runCallback : TimerCallback → Nat → Action Session Unit}
    (admitted : ∀ callback ticks, likeness.Respects (runCallback callback ticks)) (index : Nat) :
    likeness.Respects (tick runCallback index) := by
  refine (upheld.modifyTimer _ _).bind fun _ => .get (fun session => ?_) fun _ _ _ => rfl
  split
  · exact .of_pure ()
  · exact (upheld.noting (.ticked index) rfl).bind fun _ =>
      (admitted _ _).attempt.bind fun outcome => upheld.finishTick index outcome

theorem receiveIndexing (admitted : likeness.Admits invoke) (files : Option Int)
    (delay interval : Float) (draw : Program) (onFinish : Option Program) :
    likeness.Respects (receiveIndexing invoke files delay interval draw onFinish) := by
  have rest (files : Int) : likeness.Respects (do
      let token ← Session.begin invoke (.string "indexing") (.string "") (.int 0)
      let timer ← Session.createTimer interval delay (.indexing token files onFinish)
      Session.startTimer timer) :=
    (upheld.begin admitted _ _ _).bind fun _ => (upheld.createTimer _ _ _).bind fun timer =>
      upheld.startTimer timer
  cases files with
  | some files => exact (Respects.of_pure files).bind rest
  | none => exact ((admitted draw).map _).bind rest

/-! ## The loop -/

theorem guarded {callback : Action Session Unit} (respects : likeness.Respects callback) :
    likeness.Respects (guarded callback) := by
  refine respects.attempt.bind fun result => ?_
  cases result with
  | ok => exact .of_pure ()
  | error failure => exact upheld.noting (.loopFailed failure) rfl

theorem takeReady : likeness.Respects takeReady := by
  rw [takeReady_eq]
  refine .get (fun session => ?_) fun _ _ _ => rfl
  split
  · exact .of_pure _
  · exact (upheld.changing _ fun _ _ _ => rfl).bind fun _ => .of_pure _

theorem drain (admitted : likeness.Admits invoke) (fuel : Nat) :
    likeness.Respects (drain invoke fuel) := by
  induction fuel with
  | zero => exact .exhausted
  | succ fuel induction =>
      rw [drain_succ]
      refine upheld.takeReady.bind fun next => ?_
      cases next with
      | none => exact .of_pure ()
      | some next =>
          refine Respects.bind ?_ fun _ => induction
          refine (upheld.noting (.acknowledged next.identifier) rfl).bind fun _ => ?_
          exact upheld.guarded ((admitted _).bind fun _ => .of_pure ())

theorem fire (admitted : likeness.Admits invoke) (scheduled : ScheduledTick) :
    likeness.Respects (fire invoke scheduled) := by
  refine (upheld.changing _ fun _ _ _ => rfl).bind fun _ => ?_
  exact (upheld.cancelTick _).bind fun _ =>
    upheld.guarded (upheld.tick (upheld.runTimerCallback admitted _) _)

theorem fireAll (admitted : likeness.Admits invoke)
    (choose : List ScheduledTick → Option ScheduledTick) (fuel : Nat) :
    likeness.Respects (fireAll invoke choose fuel) := by
  induction fuel with
  | zero => exact .exhausted
  | succ fuel induction =>
      rw [fireAll_succ]
      refine .get (fun session => ?_) fun _ _ _ => rfl
      split
      · exact .of_pure ()
      · exact ((upheld.fire admitted _).bind fun _ => upheld.drain admitted fuel).bind fun _ =>
          induction

theorem advance (admitted : likeness.Admits invoke) (fuel : Nat) (seconds : Float) :
    likeness.Respects (advance invoke fuel seconds) := by
  refine .get (fun session => ?_) fun _ _ _ => rfl
  exact (upheld.drain admitted fuel).bind fun _ => (upheld.fireAll admitted _ fuel).bind fun _ =>
    upheld.changing _ fun _ _ _ => rfl

/-! ## Calls -/

theorem respond (admitted : likeness.Admits invoke) (responder : Responder) (answer : Answer) :
    likeness.Respects (respond invoke responder answer) := by
  cases responder with
  | exchange identifier => exact upheld.responding invoke identifier answer
  | host index =>
      refine (upheld.noting (.answered (.host index) answer) rfl).bind fun _ => ?_
      refine .get (fun session => ?_) fun _ _ _ => rfl
      split
      · exact .of_pure ()
      · exact (admitted _).bind fun _ => .of_pure ()

theorem runReceiver (admitted : likeness.Admits invoke) (receiver : Receiver) (params : Value)
    (responder : Responder) :
    likeness.Respects (runReceiver invoke receiver params responder) := by
  cases receiver with
  | host handler => exact admitted _
  | indexing files delay interval draw onFinish =>
      exact (upheld.receiveIndexing admitted _ _ _ _ _).bind fun _ => .of_pure _

theorem callReceiver (admitted : likeness.Admits invoke) (method : String) (params : Value)
    (responder : Responder) (subscription : Int) (receiver : Receiver) :
    likeness.Respects (callReceiver invoke method params responder subscription receiver) := by
  refine (upheld.noting (.called subscription method params responder) rfl).bind fun _ =>
    (upheld.runReceiver admitted receiver params responder).attempt.bind fun outcome =>
      (upheld.noting (.returned subscription responder outcome) rfl).bind fun _ =>
        (Respects.ofExcept outcome).bind fun result => ?_
  split
  · exact upheld.respond admitted _ _
  · exact .of_pure ()

theorem fanOut (admitted : likeness.Admits invoke) (method : String) (params : Value)
    (responder : Responder) (receivers : List (Int × Receiver)) :
    likeness.Respects (fanOut invoke method params responder receivers) := by
  induction receivers with
  | nil => exact .of_pure _
  | cons entry receivers induction =>
      rcases entry with ⟨subscription, receiver⟩
      refine (upheld.callReceiver admitted method params responder subscription
        receiver).attempt.bind fun result => ?_
      cases result with
      | ok => exact induction
      | error failure =>
          dsimp only
          split
          · exact (upheld.log _ _ _ _).bind fun _ => induction.bind fun _ => .of_pure _
          · exact .fail failure

theorem dispatch (admitted : likeness.Admits invoke) (method : String) (params : Value)
    (responder : Responder) : likeness.Respects (dispatch invoke method params responder) := by
  refine .get (fun session => ?_) fun _ _ _ => rfl
  split
  · exact (upheld.log _ _ _).bind fun _ => .of_pure _
  · refine (upheld.fanOut admitted method params responder _).bind fun first => ?_
    cases first with
    | none => exact .of_pure _
    | some failure => exact .fail failure

theorem ignoreMethod (method : Value) : likeness.Respects (ignoreMethod method) := by
  refine .get (fun session => ?_) fun _ _ _ => rfl
  split
  · exact .fail _
  · exact upheld.log _ _ _

theorem leads (admitted : likeness.Admits invoke) (answerable : Bool) :
    likeness.Leads invoke answerable := by
  intro method params identifier own
  unfold route
  dsimp only
  split
  · exact .fail _
  · exact .fail _
  · refine .get (fun session => ?_) fun _ _ _ => rfl
    exact (upheld.respond admitted _ _).bind fun _ => .of_pure _
  · exact upheld.terminating.bind fun _ => (upheld.respond admitted _ _).bind fun _ => .of_pure _
  · refine .get (fun session => ?_) fun _ _ _ => rfl
    split
    · refine Respects.bind (.recover ?_ fun failure => ?_) fun _ => .of_pure _
      · exact (upheld.dispatch admitted _ _ _).bind fun _ => .of_pure _
      · split
        · exact upheld.delivering invoke own _
        · exact .fail failure
    · exact (upheld.ignoreMethod _).bind fun _ => .of_pure _
  · exact (upheld.ignoreMethod _).bind fun _ => .of_pure _

variable {fuel : Nat}

theorem request (admitted : likeness.Admits (run fuel)) (method params : Value)
    (onAcknowledge : Option (Int → Program)) :
    likeness.Respects (request (run fuel) method params onAcknowledge) := by
  have performed := upheld.requesting fuel (upheld.leads admitted true) method params
    onAcknowledge none
  refine Respects.of_map Reply.request ?_ fun _ _ same => Reply.request.inj same
  exact performed

theorem notify (admitted : likeness.Admits (run fuel)) (method params : Value) :
    likeness.Respects (notify (run fuel) method params) :=
  upheld.notifying fuel (upheld.leads admitted false) method params

theorem handleMessage (admitted : likeness.Admits (run fuel)) (message : Value) :
    likeness.Respects (handleMessage (run fuel) message) := by
  refine (upheld.log _ _ _).bind fun _ => ?_
  split
  · exact .fail _
  · refine (Respects.ofExcept _).bind fun isRequest => ?_
    split
    · refine .recover (.map ?_ _) fun failure => ?_
      · exact (upheld.request admitted _ _ none).bind fun report => .ofExcept _
      · dsimp only
        split
        · exact .of_pure _
        · exact (upheld.log _ _ _).bind fun _ => .of_pure _
    · refine (Respects.ofExcept _).bind fun isNotification => ?_
      split
      · exact Respects.bind ((upheld.notify admitted _ _).recover fun _ => upheld.log _ _ _)
          fun _ => .of_pure _
      · exact (upheld.log _ _ _).bind fun _ => .of_pure _

/-! ## Operations and programs -/

theorem setQueue (name : String) (programs : List Program) :
    likeness.Respects (setQueue name programs) :=
  upheld.changing _ fun _ _ _ => rfl

theorem resume (admitted : likeness.Admits invoke) (name : String) (keepLast : Bool) :
    likeness.Respects (resume invoke name keepLast) := by
  refine .get (fun session => ?_) fun _ _ _ => rfl
  split
  · exact .of_pure _
  · split
    · exact (upheld.setQueue _ _).bind fun _ => admitted _
    · exact admitted _

theorem registerReceiver (method : String) (receiver : Receiver) :
    likeness.Respects (registerReceiver method receiver) := by
  refine .get (fun session => ?_) fun _ _ _ => rfl
  refine (upheld.changing _ fun _ _ _ => rfl).bind fun _ => ?_
  exact (upheld.noting (.registered _ method receiver) rfl).bind fun _ =>
    (upheld.log _ _ _).bind fun _ => .of_pure _

theorem registerIndexing (options : IndexingOptions Program) :
    likeness.Respects (registerIndexing options) := by
  unfold Session.registerIndexing
  split
  · exact .fail _
  · exact .get (fun session => upheld.registerReceiver _ _) fun _ _ _ => rfl

theorem unregister (subscription : Int) : likeness.Respects (unregister subscription) := by
  refine .get (fun session => ?_) fun _ _ _ => rfl
  split
  · exact .of_pure _
  · refine (upheld.changing _ fun _ _ _ => rfl).bind fun _ => ?_
    exact (upheld.noting (.unregistered subscription) rfl).bind fun _ =>
      (upheld.log _ _ _).bind fun _ => .of_pure _

theorem addResponder (onAnswer : Answer → Program) :
    likeness.Respects (addResponder onAnswer) := by
  refine .get (fun session => ?_) fun _ _ _ => rfl
  exact (upheld.changing _ fun _ _ _ => rfl).bind fun _ => .of_pure _

theorem perform_dispatch (admitted : likeness.Admits (run fuel)) (method : String)
    (params : Value) (onAnswer : Answer → Program) :
    likeness.Respects (Session.perform fuel (.dispatch method params onAnswer)) :=
  (upheld.addResponder onAnswer).bind fun responder =>
    (upheld.dispatch admitted method params responder).bind fun _ => .of_pure _

theorem perform_update (admitted : likeness.Admits (run fuel)) (name : String)
    (fields : List (String × Value)) :
    likeness.Respects (Session.perform fuel (.update name fields)) := by
  refine (findProgress_respects name).bind fun progress => ?_
  split
  · exact .fail _
  · exact (upheld.update admitted progress fields).bind fun _ => .of_pure _

theorem perform_finish (admitted : likeness.Admits (run fuel)) (name : String)
    (message : Value) : likeness.Respects (Session.perform fuel (.finish name message)) :=
  (findProgress_respects name).bind fun progress =>
    (upheld.finish admitted progress message).bind fun _ => .of_pure _

theorem perform (admitted : likeness.Admits (run fuel)) (operation : Operation Program) :
    likeness.Respects (perform fuel operation) := by
  cases operation with
  | start => exact (upheld.starting fuel admitted).map _
  | terminate => exact upheld.terminating.bind fun _ => .of_pure _
  | isClosing | describe | hasReceivers =>
      exact .get (fun session => .of_pure _) fun _ _ _ => rfl
  | nextIdentifier => exact (upheld.numbering .host (.inl rfl)).map _
  | request => exact upheld.requesting fuel (upheld.leads admitted true) _ _ _ _
  | notify => exact (upheld.notify admitted _ _).bind fun _ => .of_pure _
  | handleMessage message => exact (upheld.handleMessage admitted message).map _
  | outcome name => exact (upheld.finding name).map _
  | register method receiver => exact (upheld.registerReceiver _ _).map _
  | registerIndexing options => exact (upheld.registerIndexing options).map _
  | unregister subscription => exact (upheld.unregister subscription).map _
  | dispatch => exact upheld.perform_dispatch admitted _ _ _
  | respond => exact (upheld.respond admitted _ _).bind fun _ => .of_pure _
  | keepResponder name responder => exact (upheld.naming name _ id).bind fun _ => .of_pure _
  | respondKept => exact found_respects fun responder => upheld.respond admitted responder _
  | begin => exact bound_respects (upheld.begin admitted _ _ _) fun _ => upheld.naming _ _ id
  | update => exact upheld.perform_update admitted _ _
  | finish => exact upheld.perform_finish admitted _ _
  | inspect name => exact (findProgress_respects name).map _
  | createTimer => exact bound_respects (upheld.createTimer _ _ _) fun _ => upheld.naming _ _ id
  | startTimer => exact found_respects fun index => upheld.startTimer index
  | stopTimer => exact found_respects fun index => upheld.stopTimer index
  | inspectTimer => exact inspectTimer_respects _
  | drain => exact (upheld.drain admitted fuel).bind fun _ => .of_pure _
  | advance seconds => exact (upheld.advance admitted fuel seconds).bind fun _ => .of_pure _
  | note note => exact (upheld.noting (.noted note) rfl).bind fun _ => .of_pure _
  | log level logger message => exact (upheld.log level logger message).bind fun _ => .of_pure _
  | readCell cell => exact (readCell_respects cell).map _
  | writeCell => exact (upheld.changing _ fun _ _ _ => rfl).bind fun _ => .of_pure _
  | putAside name program => exact (upheld.setQueue name [program]).bind fun _ => .of_pure _
  | resume name keepLast => exact (upheld.resume admitted name keepLast).map _

theorem admits (fuel : Nat) : likeness.Admits (run fuel) := by
  -- The induction is on the fuel, of which every callback has less.
  induction fuel with
  | zero => exact fun _ => .exhausted
  | succ fuel induction =>
      intro program
      cases program with
      | done value => exact .of_pure value
      | fail failure => exact .fail failure
      | call callee next => exact (induction callee).attempt.bind fun outcome => induction _
      | perform operation next =>
          exact (upheld.perform induction operation).attempt.bind fun reply => induction _

end Likeness.Upheld

end RpcSession.Session
