import RpcSession.Proofs.Exchange.Request

/-!
# Runs as series of changes

Whatever a program does to a session, it does by a series of changes, and so do the operations
that come from outside of any program.
-/

namespace RpcSession.Session

variable {since : Int} {session : Session} {invoke : Invoke}

/-! ## Messages of the peer -/

theorem respondToRequest_moves (moving : Invoke.Moves invoke)
    (identifier method params : Value) :
    Moves since session (respondToRequest invoke identifier method params) := by
  apply Moves.recover
  · apply Moves.map
    apply (request_moves moving method params none).seq
    intro report middle
    exact .ofExcept _
  · intro failure middle
    dsimp only
    split
    · exact .pure _
    · exact Moves.seq (record_moves rfl) fun _ _ => .pure _

theorem takeNotification_moves (moving : Invoke.Moves invoke) (method params : Value) :
    Moves since session (takeNotification invoke method params) :=
  (notify_moves moving method params).recover fun _ _ => record_moves rfl

theorem handleMessage_moves (moving : Invoke.Moves invoke) (message : Value) :
    Moves since session (handleMessage invoke message) := by
  unfold handleMessage
  apply Moves.seq (record_moves rfl)
  intro _ logged
  split
  · exact .fail _
  · apply (Moves.ofExcept _).seq
    intro isRequest middle
    split
    · exact respondToRequest_moves moving _ _ _
    · apply (Moves.ofExcept _).seq
      intro isNotification after
      split
      · exact (takeNotification_moves moving _ _).seq fun _ _ => .pure _
      · exact Moves.seq (record_moves rfl) fun _ _ => .pure _

/-! ## Names and memory -/

theorem find_state {α : Type} (session : Session) (name : String) (wanted : Reference → Option α) :
    (find name wanted session).2 = session := by
  rw [find, Action.get_bind_apply]
  cases session.reference? name wanted <;> rfl

theorem find_moves {α : Type} (name : String) (wanted : Reference → Option α) :
    Moves since session (find name wanted) := .of_eq (find_state session name wanted)

theorem findProgress_held {name : String} {progress : Progress} {after : Session}
    (found : findProgress name session = (.value progress, after)) :
    after = session ∧ session.progress? progress.token = some progress := by
  rcases Action.value_of_bind found with ⟨token, middle, looked, rest⟩
  have same : session = middle := by
    rw [← find_state session name, looked]
  subst same
  rw [Action.get_bind_apply] at rest
  cases held : session.progress? token with
  | none =>
      rw [held] at rest
      cases rest
  | some other =>
      rw [held] at rest
      cases rest
      rw [progress?_token held]
      exact ⟨rfl, held⟩

theorem findProgress_moves (name : String) : Moves since session (findProgress name) := by
  apply (find_moves _ _).seq
  intro token middle
  apply Moves.get
  split
  · exact .pure _
  · exact .fail _

theorem findProgress_bind {β : Type} {name : String} {next : Progress → Action Session β}
    (rest : ∀ progress : Progress, session.progress? progress.token = some progress →
      Moves since session (next progress)) :
    Moves since session (findProgress name >>= next) := by
  apply (findProgress_moves name).bind
  intro progress found
  rcases findProgress_held (Prod.ext found rfl) with ⟨same, held⟩
  have moves := rest progress held
  rw [← same] at moves
  exact moves

theorem findRequest_moves (name : String) : Moves since session (findRequest name) := by
  apply (find_moves _ _).seq
  intro found middle
  apply Moves.get
  split
  · exact .pure _
  · exact .fail _

theorem writeCell_moves (cell : String) (value : Value) :
    Moves since session (writeCell cell value) :=
  .of_change (.remembered _ session.queues session.responders)

theorem setQueue_moves (name : String) (programs : List Program) :
    Moves since session (setQueue name programs) :=
  .of_change (.remembered session.cells _ session.responders)

theorem resume_moves (moving : Invoke.Moves invoke) (name : String) (keepLast : Bool) :
    Moves since session (resume invoke name keepLast) := by
  apply Moves.get
  split
  · exact .pure _
  · split
    · exact (setQueue_moves _ _).seq fun _ _ => moving _ _ _
    · exact moving _ _ _

/-! ## Receivers -/

theorem registerReceiver_apply (session : Session) (method : String) (receiver : Receiver) :
    ∃ entry, registerReceiver method receiver session =
      (.value session.registry.next,
        (session.subscribing method receiver).noting (.logged entry)) := ⟨_, rfl⟩

theorem registerReceiver_moves (method : String) (receiver : Receiver) :
    Moves since session (registerReceiver method receiver) := by
  rcases registerReceiver_apply session method receiver with ⟨entry, applied⟩
  intro _
  rw [applied]
  exact (Changes.single (.registered method receiver)).tail (.remarked _ rfl)

theorem registerIndexing_moves (options : IndexingOptions Program) :
    Moves since session (registerIndexing options) := by
  unfold registerIndexing
  split
  · exact .fail _
  · apply Moves.get
    exact registerReceiver_moves _ _

theorem unregister_apply_of_none {subscription : Int}
    (absent : session.registry.unregister? subscription = none) :
    unregister subscription session = (.value false, session) := by
  rw [unregister, Action.get_bind_apply, absent]
  rfl

theorem unregister_apply_of_some {subscription : Int} {method : String}
    {registry : Registry Receiver}
    (found : session.registry.unregister? subscription = some (method, registry)) :
    ∃ entry, unregister subscription session =
      (.value true, (session.unsubscribing subscription registry).noting (.logged entry)) := by
  rw [unregister, Action.get_bind_apply, found]
  exact ⟨_, rfl⟩

theorem unregister_moves (subscription : Int) :
    Moves since session (unregister subscription) := by
  intro _
  cases found : session.registry.unregister? subscription with
  | none =>
      rw [unregister_apply_of_none found]
      exact .refl
  | some removed =>
      rcases removed with ⟨method, registry⟩
      rcases unregister_apply_of_some found with ⟨entry, applied⟩
      rw [applied]
      exact (Changes.single (.unregistered subscription method registry found)).tail
        (.remarked _ rfl)

theorem addResponder_moves (onAnswer : Answer → Program) :
    Moves since session (addResponder onAnswer) :=
  .of_change (.remembered session.cells session.queues _)

/-! ## Operations and programs

What an operation makes is bound to a name of the host, and what it works on is looked up under
one.
-/

theorem bound_moves {α : Type} {action : Action Session α} {name : String}
    {reference : α → Reference} {reply : α → Reply} (moves : Moves since session action) :
    Moves since session
      (do let made ← action; bindName name (reference made); return reply made) := by
  apply moves.seq
  intro made middle
  exact (bindName_moves _ _).seq fun _ _ => .pure _

theorem found_moves {α : Type} {name : String} {wanted : Reference → Option α}
    {action : α → Action Session Unit} {reply : Reply}
    (moves : ∀ found middle, Moves since middle (action found)) :
    Moves since session (do action (← find name wanted); return reply) := by
  apply (find_moves name wanted).seq
  intro found middle
  exact (moves found middle).seq fun _ _ => .pure _

section Operations

variable {fuel : Nat}

theorem operate_request_moves (moving : Invoke.Moves invoke) (method params : Value)
    (onAcknowledge : Option (Int → Program)) (name : Option String) :
    Moves since session
      (operate invoke fuel (.request method params onAcknowledge name)) := by
  apply (request_moves moving method params onAcknowledge).seq
  intro report middle
  cases name with
  | none => exact .pure _
  | some name => exact (bindName_moves _ _).seq fun _ _ => .pure _

theorem operate_dispatch_moves (moving : Invoke.Moves invoke) (method : String) (params : Value)
    (onAnswer : Answer → Program) :
    Moves since session (operate invoke fuel (.dispatch method params onAnswer)) := by
  apply (addResponder_moves onAnswer).bind
  intro responder added
  cases added
  -- The answers to a dispatch of the host settle no exchange, so none can be an older one.
  refine (dispatch_moves moving method params ?_).seq fun _ _ => .pure _
  intro identifier same
  cases same

theorem operate_update_moves (moving : Invoke.Moves invoke) (name : String)
    (fields : List (String × Value)) :
    Moves since session (operate invoke fuel (.update name fields)) := by
  apply findProgress_bind
  intro progress held
  split
  · exact .fail _
  · exact (update_moves moving held fields).seq fun _ _ => .pure _

theorem operate_finish_moves (moving : Invoke.Moves invoke) (name : String) (message : Value) :
    Moves since session (operate invoke fuel (.finish name message)) := by
  apply findProgress_bind
  intro progress held
  exact (finish_moves moving held message).seq fun _ _ => .pure _

theorem operate_inspectTimer_moves (name : String) :
    Moves since session (operate invoke fuel (.inspectTimer name)) := by
  apply (find_moves _ _).seq
  intro index middle
  apply Moves.get
  split
  · exact .pure _
  · exact .fail _

end Operations

theorem operate_moves (moving : Invoke.Moves invoke) (fuel : Nat)
    (operation : Operation Program) : Moves since session (operate invoke fuel operation) := by
  cases operation with
  | start => exact (start_moves moving).map _
  | terminate => exact terminate_moves.seq fun _ _ => .pure _
  | isClosing | describe | hasReceivers => exact .pure _
  | nextIdentifier => exact (Moves.of_change .numbered).map _
  | request => exact operate_request_moves moving _ _ _ _
  | notify method params => exact (notify_moves moving method params).seq fun _ _ => .pure _
  | handleMessage message => exact (handleMessage_moves moving message).map _
  | outcome name => exact (findRequest_moves name).map _
  | register method receiver => exact (registerReceiver_moves _ _).map _
  | registerIndexing options => exact (registerIndexing_moves options).map _
  | unregister subscription => exact (unregister_moves subscription).map _
  | dispatch => exact operate_dispatch_moves moving _ _ _
  | respond responder answer => exact (respond_moves moving _ _).seq fun _ _ => .pure _
  | keepResponder name responder => exact (bindName_moves _ _).seq fun _ _ => .pure _
  | respondKept => exact found_moves fun responder _ => respond_moves moving responder _
  | begin => exact bound_moves (begin_moves moving _ _ _)
  | update => exact operate_update_moves moving _ _
  | finish => exact operate_finish_moves moving _ _
  | inspect name => exact (findProgress_moves name).map _
  | createTimer => exact bound_moves (createTimer_moves _ _ _)
  | startTimer => exact found_moves fun index _ => startTimer_moves index
  | stopTimer => exact found_moves fun index _ => stopTimer_moves index
  | inspectTimer name => exact operate_inspectTimer_moves name
  | drain => exact (drain_moves moving fuel).seq fun _ _ => .pure _
  | advance seconds => exact (advance_moves moving fuel seconds).seq fun _ _ => .pure _
  | note note => exact (record_moves rfl).seq fun _ _ => .pure _
  | log level logger message => exact (log_moves level logger message).seq fun _ _ => .pure _
  | readCell cell => exact .pure _
  | writeCell cell value => exact (writeCell_moves cell value).seq fun _ _ => .pure _
  | putAside name program => exact (setQueue_moves name [program]).seq fun _ _ => .pure _
  | resume name keepLast => exact (resume_moves moving name keepLast).map _

theorem run_moves (fuel : Nat) : Invoke.Moves (run fuel) := by
  -- The induction is on the fuel, of which every callback has less.
  induction fuel with
  | zero =>
      intro program since session
      exact .exhausted
  | succ fuel induction =>
      intro program since session
      cases program with
      | done value => exact .pure value
      | fail failure => exact .fail failure
      | call callee next =>
          apply (induction callee since session).attempt.seq
          intro outcome middle
          exact induction (next outcome) since middle
      | perform operation next =>
          apply (operate_moves induction fuel operation).attempt.seq
          intro reply middle
          exact induction (next reply) since middle

theorem run_changes {fuel : Nat} {program : Program} {outcome : Outcome Value} {after : Session}
    (ran : run fuel program session = (outcome, after)) :
    Changes session.identifiers.next session after := by
  have moves := run_moves fuel program _ session (Int.le_refl _)
  rw [ran] at moves
  exact moves

theorem perform_moves (fuel : Nat) (operation : Operation Program) :
    Moves since session (perform fuel operation) := operate_moves (run_moves fuel) fuel operation

theorem after_changes (operations : List (Nat × Operation Program))
    (entered : since ≤ session.identifiers.next) :
    Changes since session (session.after operations) := by
  induction operations generalizing session with
  | nil => exact .refl
  | cons first operations induction =>
      rcases first with ⟨fuel, operation⟩
      have performed := perform_moves fuel operation entered
      exact performed.trans (induction (Int.le_trans entered performed.next_le))

theorem after_preserves {holds : Session → Prop} (initially : holds session)
    (step : ∀ before next, holds before → Change session.identifiers.next before next → holds next)
    (operations : List (Nat × Operation Program)) : holds (session.after operations) :=
  (after_changes operations (Int.le_refl _)).preserves initially step

/-- A session that nothing has happened to. How it is configured, where its counter stands and
what its host remembers is left open. -/
structure IsNew (session : Session) : Prop where
  lifecycle : session.lifecycle = {}
  registry : session.registry = {}
  progresses : session.progresses = []
  exchanges : session.exchanges = []
  timers : session.timers = []
  loop : session.loop = {}
  names : session.names = []
  history : session.history = []

/-- A session at a moment of some run: what a new one has become by changes. -/
inductive Reachable : Session → Prop
  | new {session : Session} (new : session.IsNew) : Reachable session
  | step {since : Int} {session after : Session} (reachable : Reachable session)
      (change : Change since session after) : Reachable after

theorem Reachable.changes {after : Session} (reachable : Reachable session)
    (changes : Changes since session after) : Reachable after :=
  Changes.preserves changes reachable fun _ _ => .step

theorem Reachable.after (reachable : Reachable session)
    (operations : List (Nat × Operation Program)) : Reachable (session.after operations) :=
  reachable.changes (after_changes operations (Int.le_refl _))

theorem Reachable.preserves {holds : Session → Prop} (reachable : Reachable session)
    (initially : ∀ session : Session, session.IsNew → holds session)
    (step : ∀ since before next, holds before → Change since before next → holds next) :
    holds session := by
  induction reachable with
  | new new => exact initially _ new
  | step _ change induction => exact step _ _ _ induction change

theorem isNew_given {configuration : Configuration} {outbound : Value → Program}
    {launcher : Option Program} {identifiers : Identifiers} {responders : List (Answer → Program)}
    {cells : List (String × Value)} {queues : List (String × List Program)} :
    ({ configuration, outbound, launcher, identifiers, responders, cells, queues } :
      Session).IsNew :=
  ⟨rfl, rfl, rfl, rfl, rfl, rfl, rfl, rfl⟩

theorem isNew_default : ({} : Session).IsNew := isNew_given

end RpcSession.Session
