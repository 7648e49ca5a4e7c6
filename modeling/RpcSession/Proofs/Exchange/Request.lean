import RpcSession.Proofs.Exchange.FanOut

/-!
# Requests

When the receivers of a request are done, its first answer has settled it, or else their first
failure has, or else it comes to null.
-/

namespace RpcSession.Session

variable {since identifier : Int} {session middle after : Session} {events : List Event}
variable {invoke : Invoke} {method params : Value} {name : String} {answerable : Bool}

/-! ## Feeding a failure back -/

def isStop : Failure → Bool
  | .host .stop _ => true
  | _ => false

private theorem outcome_failure (failure : Failure) :
    Answer.outcome { complaint := some (.failure failure) } =
      if isStop failure then .error .stopAsOutcome else .ok (.error failure) := by
  cases failure with
  | host kind arguments => cases kind <;> rfl
  | _ => rfl

private theorem deliver_awaited (invoke : Invoke)
    (awaited : session.reception? identifier = some .awaited) (answer : Answer) :
    deliver invoke (.exchange identifier) answer session =
      match Answer.outcome answer with
      | .ok outcome => (.value (), session.settling identifier outcome)
      | .error failure => (.failed failure, session) := by
  rcases exchange?_of_reception? awaited with ⟨number, called, found⟩
  unfold deliver
  dsimp only
  rw [Action.get_bind_apply, found]
  cases Answer.outcome answer <;> rfl

private theorem deliver_settled (invoke : Invoke) {outcome : Except Failure Value}
    (settled : session.reception? identifier = some (.settled outcome)) (answer : Answer) :
    ∃ entry, deliver invoke (.exchange identifier) answer session =
      (.value (), session.noting (.logged entry)) := by
  rcases exchange?_of_reception? settled with ⟨number, called, found⟩
  unfold deliver
  dsimp only
  rw [Action.get_bind_apply, found]
  exact ⟨_, rfl⟩

theorem deliver_unwanted (invoke : Invoke)
    (unwanted : session.reception? identifier = some .unwanted) (answer : Answer) :
    ∃ entry, deliver invoke (.exchange identifier) answer session =
      (.value (), session.noting (.logged entry)) := by
  rcases exchange?_of_reception? unwanted with ⟨number, called, found⟩
  unfold deliver
  dsimp only
  rw [Action.get_bind_apply, found]
  exact ⟨_, rfl⟩

/-! ## The law of answers -/

def lawfulReception (identifier : Int) (history : List Event) : Reception :=
  match (settlements identifier history).head?, (failures identifier history).head? with
  | some outcome, _ => .settled outcome
  | none, some failure => .settled (.error failure)
  | none, none => .awaited

/-- Whether the receivers of an exchange leave it with the end of a producer and no answer. -/
def isRefused (identifier : Int) (history : List Event) : Bool :=
  (settlements identifier history).isEmpty && (failures identifier history).head?.any isStop

/-- An exchange that only has to be concluded. -/
structure Routed (identifier : Int) (session : Session) : Prop where
  taken : identifier < session.identifiers.next
  reception : session.reception? identifier =
    some (lawfulReception identifier session.history)

theorem Receiving.failures_eq (receiving : Receiving answerable identifier events session) :
    failures identifier session.history = failuresOf events := by
  rw [failures, returns, receiving.received]
  rfl

theorem Receiving.routed (receiving : Receiving true identifier events session)
    (none : failuresOf events = []) : Routed identifier session := by
  constructor
  · exact receiving.taken
  · rw [receiving.agrees, lawfulReception, receiving.failures_eq, none]
    cases first : (settlements identifier session.history).head? with
    | none => rw [dueReception_unanswered first, List.head?_nil]
    | some outcome => rw [dueReception_answered first]

/-- What the first failure of the receivers of an exchange does when it is fed back: it stands in
for an answer, if there is none, unless it is the end of a producer. -/
inductive Feedback (identifier : Int) (session : Session) : Outcome Unit × Session → Prop
  | refused (refused : isRefused identifier session.history = true) :
      Feedback identifier session (.failed .stopAsOutcome, session)
  | accepted {after : Session} (accepted : isRefused identifier session.history = false)
      (alike : Alike identifier after.history session.history)
      (routed : Routed identifier after) :
      Feedback identifier session (.value (), after)

private theorem Receiving.feedback (invoke : Invoke) {failure : Failure}
    (receiving : Receiving true identifier events session)
    (first : (failuresOf events).head? = some failure) :
    Feedback identifier session
      (deliver invoke (.exchange identifier) { complaint := some (.failure failure) } session) := by
  have agrees := receiving.agrees
  have failed : (failures identifier session.history).head? = some failure := by
    rw [receiving.failures_eq, first]
  cases settled : (settlements identifier session.history).head? with
  | some outcome =>
      rw [dueReception_answered settled] at agrees
      rcases deliver_settled invoke agrees { complaint := some (.failure failure) } with
        ⟨entry, same⟩
      have alike : Alike identifier (session.noting (.logged entry)).history session.history :=
        (Alike.refl _).cons ⟨rfl, rfl, rfl⟩
      rw [same]
      refine .accepted ?_ alike ⟨receiving.taken, ?_⟩
      · have answered : settlements identifier session.history ≠ [] := by
          intro empty
          simp [empty] at settled
        simp [isRefused, answered]
      · change session.reception? identifier = _
        rw [agrees, lawfulReception, alike.settlements, settled]
  | none =>
      rw [dueReception_unanswered settled] at agrees
      rw [deliver_awaited invoke agrees, outcome_failure]
      cases stop : isStop failure with
      | true =>
          refine .refused ?_
          simp [isRefused, failed, stop, List.head?_eq_none_iff.mp settled]
      | false =>
          refine .accepted ?_ (.refl _) ⟨receiving.taken, ?_⟩
          · simp [isRefused, failed, stop]
          · rw [reception?_settling, agrees, lawfulReception]
            change _ = some (match (settlements identifier session.history).head?,
              (failures identifier session.history).head? with
              | some outcome, _ => Reception.settled outcome
              | none, some failure => .settled (.error failure)
              | none, none => .awaited)
            rw [settled, failed]
            simp

theorem Alike.isRefused {identifier : Int} {first second : List Event}
    (alike : Alike identifier first second) :
    isRefused identifier first = isRefused identifier second := by
  rw [Session.isRefused, alike.settlements, alike.failures, Session.isRefused]

theorem Receiving.accepted (receiving : Receiving true identifier events session)
    (none : failuresOf events = []) :
    isRefused identifier session.history = false := by
  simp [isRefused, receiving.failures_eq, none]

/-! ## Routes

A call whose method has receivers goes to all of them. When the fan-out is over, the failure of
a request is fed back to it, and that of a notification is raised. -/

def afterFanOut (invoke : Invoke) (answerable : Bool) (identifier : Int) :
    Outcome (Option Failure) → Action Session Unit
  | .value none => pure ()
  | .value (some failure) =>
      if answerable then
        deliver invoke (.exchange identifier) { complaint := some (.failure failure) }
      else Action.fail failure
  | .failed failure => Action.fail failure
  | .exhausted => Action.exhausted

private theorem deliver_alike (invoke : Invoke) (session : Session) (identifier : Int)
    (answer : Answer) :
    Alike identifier (deliver invoke (.exchange identifier) answer session).2.history
      session.history := by
  rcases deliver_cases invoke session identifier answer with
    ⟨_, _, _, delivered⟩ | ⟨_, delivered | ⟨_, delivered⟩ | ⟨_, _, delivered⟩⟩ <;> rw [delivered]
  · exact .refl _
  · exact .refl _
  · exact (Alike.refl _).cons ⟨rfl, rfl, rfl⟩
  · exact .refl _

private theorem afterFanOut_alike (invoke : Invoke) (answerable : Bool) (identifier : Int)
    (outcome : Outcome (Option Failure)) (session : Session) :
    Alike identifier (afterFanOut invoke answerable identifier outcome session).2.history
      session.history := by
  cases outcome with
  | failed failure => exact .refl _
  | exhausted => exact .refl _
  | value first =>
      cases first with
      | none => exact .refl _
      | some failure =>
          rw [afterFanOut]
          split
          · exact deliver_alike invoke session identifier _
          · exact .refl _

theorem dispatch_of_receivers (responder : Responder)
    (has : session.registry.hasReceivers name = true) :
    dispatch invoke name params responder session =
      (do
        match ← fanOut invoke name params responder (session.registry.receivers name) with
        | some failure => Action.fail failure
        | none => return (session.registry.receivers name).length :
          Action Session Nat) session := by
  unfold dispatch
  rw [Action.get_bind_apply]
  cases receivers : session.registry.receivers name with
  | nil => simp [Registry.hasReceivers, receivers] at has
  | cons => rfl

theorem route_of_receivers (moving : Invoke.Moves invoke)
    (receiving : Receiving answerable identifier [] session) (params : Value)
    (custom : name ≠ "initialize" ∧ name ≠ "exit")
    (has : session.registry.hasReceivers name = true) :
    ∃ shared recent outcome middle,
      FanOut name shared (.exchange identifier) (session.registry.receivers name) recent outcome ∧
      Receiving answerable identifier recent middle ∧
      route invoke (.string name) params answerable identifier session =
        (do afterFanOut invoke answerable identifier outcome; return true :
          Action Session Bool) middle := by
  let shared := if params.isNull then .object [] else params
  rcases fanOut_receiving moving name shared receiving (session.registry.receivers name) with
    ⟨recent, trace, received⟩
  rw [List.nil_append] at received
  refine ⟨shared, recent, _, _, trace, received, ?_⟩
  rw [route_of_custom invoke params answerable identifier custom, Action.get_bind_apply, if_pos has,
    Action.bind_apply, Action.recover_apply, Action.bind_apply, dispatch_of_receivers _ has,
    Action.bind_apply, Action.bind_apply]
  cases ran : fanOut invoke name shared (.exchange identifier) (session.registry.receivers name)
      session with
  | mk outcome middle =>
      rw [ran] at trace
      cases outcome with
      | exhausted => rfl
      | failed failure =>
          have abort := (trace.of_failed rfl).2
          dsimp only
          rw [if_neg (by simp [abort])]
          rfl
      | value first =>
          cases first with
          | none => rfl
          | some failure =>
              rcases trace.of_value rfl with ⟨_, _, head, ordinary⟩
              have member := List.mem_of_mem_head? (Option.mem_def.mpr head)
              dsimp only
              rw [Action.fail_apply]
              dsimp only
              rw [if_pos (ordinary failure member)]
              rfl

/-- How a call ends that goes to receivers, by what the fan-out to them comes to. The failure of a
receiver is fed back to a request; a notification fails with it. -/
inductive RouteEnd (answerable : Bool) (identifier : Int) :
    Outcome (Option Failure) → Outcome Bool × Session → Prop
  | exhausted {after : Session} : RouteEnd answerable identifier .exhausted (.exhausted, after)
  | aborted {after : Session} {failure : Failure} :
      RouteEnd answerable identifier (.failed failure) (.failed failure, after)
  | unheard {after : Session} {failure : Failure} (unwanted : answerable = false)
      (ordinary : failure.isOrdinary = true) :
      RouteEnd answerable identifier (.value (some failure)) (.failed failure, after)
  | refused {after : Session} {first : Option Failure}
      (refused : isRefused identifier after.history = true) :
      RouteEnd answerable identifier (.value first) (.failed .stopAsOutcome, after)
  | passed {after : Session} {first : Option Failure}
      (routed : answerable = true →
        Routed identifier after ∧ isRefused identifier after.history = false) :
      RouteEnd answerable identifier (.value first) (.value true, after)

theorem route_end (moving : Invoke.Moves invoke)
    (receiving : Receiving answerable identifier [] session) (params : Value)
    (custom : name ≠ "initialize" ∧ name ≠ "exit")
    (has : session.registry.hasReceivers name = true) :
    let result := route invoke (.string name) params answerable identifier session
    ∃ shared recent outcome,
      FanOut name shared (.exchange identifier) (session.registry.receivers name) recent outcome ∧
      receiverEvents identifier result.2.history = recent ∧
      RouteEnd answerable identifier outcome result := by
  intro result
  rcases route_of_receivers moving receiving params custom has with
    ⟨shared, recent, outcome, middle, trace, received, same⟩
  have steps : result = (do
      afterFanOut invoke answerable identifier outcome
      return true : Action Session Bool) middle := same
  have alike := afterFanOut_alike invoke answerable identifier outcome middle
  rw [steps, Action.bind_apply]
  refine ⟨shared, recent, outcome, trace, ?_, ?_⟩
  · rw [← received.received, ← alike.receiverEvents]
    cases afterFanOut invoke answerable identifier outcome middle with
    | mk reply after => cases reply <;> rfl
  · cases outcome with
    | exhausted => exact .exhausted
    | failed failure => exact .aborted
    | value first =>
        rcases trace.of_value rfl with ⟨_, _, head, ordinary⟩
        cases first with
        | none =>
            refine .passed fun wanted => ?_
            subst wanted
            have none := List.head?_eq_none_iff.mp head
            exact ⟨received.routed none, received.accepted none⟩
        | some failure =>
            cases answerable with
            | false =>
                exact .unheard rfl
                  (ordinary failure (List.mem_of_mem_head? (Option.mem_def.mpr head)))
            | true =>
                have fed := received.feedback invoke head
                rw [afterFanOut, if_pos rfl]
                cases delivered : deliver invoke (.exchange identifier)
                    { complaint := some (.failure failure) } middle with
                | mk reply last =>
                    rw [delivered] at fed
                    cases fed with
                    | refused refused => exact .refused refused
                    | accepted accepted alike routed =>
                        exact .passed fun _ => ⟨routed, by rw [alike.isRefused, accepted]⟩

theorem route_dispatched (moving : Invoke.Moves invoke)
    (receiving : Receiving true identifier [] session)
    (custom : name ≠ "initialize" ∧ name ≠ "exit")
    (has : session.registry.hasReceivers name = true) {handled : Bool}
    (came : route invoke (.string name) params true identifier session =
      (.value handled, after)) :
    Routed identifier after ∧ ∃ shared recent first,
      FanOut name shared (.exchange identifier) (session.registry.receivers name) recent
        (.value first) ∧
      receiverEvents identifier after.history = recent := by
  rcases route_end moving receiving params custom has with
    ⟨shared, recent, outcome, trace, received, ended⟩
  rw [came] at received ended
  cases ended with
  | @passed _ first routed => exact ⟨(routed rfl).1, shared, recent, first, trace, received⟩

theorem route_routed (moving : Invoke.Moves invoke)
    (receiving : Receiving true identifier [] session)
    {handled : Bool}
    (came : route invoke method params true identifier session = (.value handled, after)) :
    Routed identifier after := by
  by_cases dispatched : session.IsDispatched method
  · rcases dispatched with ⟨name, rfl, custom, has⟩
    exact (route_dispatched moving receiving custom has came).1
  · have received := receiving.moves
      (route_aside_moves invoke params true identifier dispatched)
    rw [came] at received
    exact received.routed rfl

private theorem conclude_routed (routed : Routed identifier session) :
    ∃ after, conclude identifier session =
        (.value (lawfulOutcome identifier session.history), after) ∧
      (after = session ∨ session.outcome? identifier = none ∧
        after = session.settling identifier (.ok .null)) ∧
      after.outcome? identifier = some (lawfulOutcome identifier session.history) := by
  have reception := routed.reception
  have known := outcome?_eq session identifier
  rw [reception] at known
  unfold conclude
  rw [Action.get_bind_apply]
  simp only [lawfulReception, lawfulOutcome] at reception known ⊢
  cases answered : (settlements identifier session.history).head? with
  | some outcome =>
      rw [answered] at known
      rw [known]
      exact ⟨session, rfl, .inl rfl, known⟩
  | none =>
      cases failed : (failures identifier session.history).head? with
      | some failure =>
          rw [answered, failed] at known
          rw [known]
          exact ⟨session, rfl, .inl rfl, known⟩
      | none =>
          rw [answered, failed] at known reception
          rw [known]
          refine ⟨session.settling identifier (.ok .null), rfl, .inr ⟨rfl, rfl⟩, ?_⟩
          rw [outcome?_eq, reception?_settling, reception]
          simp

def acknowledging (session : Session) (identifier : Int) :
    Option (Int → Program) → Session
  | none => session
  | some callback => session.owing ⟨identifier, callback⟩

theorem finishRequest_routed (routed : Routed identifier session)
    (onAcknowledge : Option (Int → Program)) (handled : Bool) :
    let outcome := lawfulOutcome identifier session.history
    ∃ concluded : Session,
      (concluded = session ∨ session.outcome? identifier = none ∧
        concluded = session.settling identifier (.ok .null)) ∧
      concluded.outcome? identifier = some outcome ∧
      finishRequest identifier onAcknowledge handled session =
        (.value { identifier, handled, outcome },
          (concluded.noting (.concluded identifier outcome)).acknowledging identifier
            onAcknowledge) := by
  intro outcome
  rcases conclude_routed routed with ⟨concluded, same, origin, known⟩
  refine ⟨concluded, origin, known, ?_⟩
  rw [finishRequest, Action.bind_of_value same, Action.bind_of_value (record_apply _ _)]
  cases onAcknowledge <;> rfl

/-- A request that came back has its lawful outcome, and its acknowledgement is scheduled. -/
structure Finished (identifier : Int) (onAcknowledge : Option (Int → Program))
    (before : Session) (report : RequestReport) (after : Session) : Prop where
  number : report.identifier = identifier
  lawful : report.outcome = lawfulOutcome identifier after.history
  done : after.outcome? identifier = some report.outcome
  alike : Alike identifier after.history before.history
  recorded : .concluded identifier report.outcome ∈ after.history
  taken : identifier < after.identifiers.next
  scheduled : ∀ callback, onAcknowledge = some callback →
    after.loop.ready = before.loop.ready ++ [⟨identifier, callback⟩]

theorem finishRequest_finished (routed : Routed identifier session)
    (onAcknowledge : Option (Int → Program)) (handled : Bool) :
    ∃ report after, finishRequest identifier onAcknowledge handled session =
      (.value report, after) ∧ Finished identifier onAcknowledge session report after := by
  rcases finishRequest_routed routed onAcknowledge handled with
    ⟨concluded, origin, known, same⟩
  have unchanged : concluded.history = session.history ∧ concluded.loop = session.loop ∧
      concluded.identifiers = session.identifiers := by
    rcases origin with rfl | ⟨_, rfl⟩
    · exact ⟨rfl, rfl, rfl⟩
    · exact ⟨rfl, rfl, rfl⟩
  rcases unchanged with ⟨history, loop, identifiers⟩
  have taken : identifier < concluded.identifiers.next := by
    rw [identifiers]
    exact routed.taken
  have noted : Alike identifier (concluded.noting (.concluded identifier
      (lawfulOutcome identifier session.history))).history session.history := by
    rw [noting, history]
    exact (Alike.refl _).cons ⟨rfl, rfl, rfl⟩
  refine ⟨_, _, same, ?_⟩
  cases onAcknowledge with
  | none =>
      refine ⟨rfl, noted.lawfulOutcome.symm, known, noted, List.mem_cons_self, taken, ?_⟩
      intro callback wanted
      cases wanted
  | some callback =>
      have owed : Alike identifier ((concluded.noting (.concluded identifier
          (lawfulOutcome identifier session.history))).owing ⟨identifier, callback⟩).history
          session.history := noted.cons ⟨rfl, rfl, rfl⟩
      refine ⟨rfl, owed.lawfulOutcome.symm, known, owed,
        List.mem_cons_of_mem _ List.mem_cons_self, taken, ?_⟩
      intro other wanted
      cases wanted
      rw [← loop]
      rfl

theorem finishRequest_moves (routed : Routed identifier session) (own : since ≤ identifier)
    (onAcknowledge : Option (Int → Program)) (handled : Bool) :
    Moves since session (finishRequest identifier onAcknowledge handled) := by
  rcases finishRequest_routed routed onAcknowledge handled with
    ⟨concluded, origin, known, same⟩
  intro _
  rw [same]
  have settled : Changes since session concluded := by
    rcases origin with unchanged | ⟨waiting, settled⟩
    · rw [unchanged]
      exact .refl
    · rw [settled]
      exact .single (.settled identifier _ own waiting)
  have history : concluded.history = session.history := by
    rcases origin with unchanged | ⟨_, settled⟩
    · rw [unchanged]
    · rw [settled]
      rfl
  have ended := settled.tail (.concluded identifier _ own known (by rw [history]))
  cases onAcknowledge with
  | none => exact ended
  | some callback => exact ended.tail (.acknowledgementDue ⟨identifier, callback⟩ own)

/-! ## Calls -/

def dispatching (session : Session) (method : Value) (answerable : Bool) : Session :=
  (session.opening method answerable).noting (.logged ⟨.debug, "notify_ls.dispatcher",
    "Dispatching " ++ method.display ++ " as " ++ toString session.identifiers.next, none⟩)

theorem dispatching_history (session : Session) (method : Value) (answerable : Bool) :
    ∃ entry, (session.dispatching method answerable).history = .logged entry ::
      .numbered (if answerable then .request else .notification) session.identifiers.next ::
        .arrived method answerable true :: session.history := ⟨_, rfl⟩

theorem dispatching_receiving (session : Session) (method : Value) (answerable : Bool) :
    Receiving answerable session.identifiers.next [] (session.dispatching method answerable) := by
  constructor
  · exact (Underway.opening session method answerable).noting _ rfl rfl
  · simp [dispatching, opening, noting, numbering, receiverEvents_cons, Event.numbers,
      Event.isOfReceiver]

theorem accept_of_stopped (invoke : Invoke) (method params : Value) (answerable : Bool)
    (stopped : session.lifecycle.stopped = true) :
    accept invoke method params answerable session =
      (.failed (.peer (.sessionTerminated
        (.string ("Session terminated; " ++ method.display ++ " rejected")))),
        session.noting (.arrived method answerable false)) := by
  rw [accept, Action.get_bind_apply, isTerminated, stopped,
    Action.bind_of_value (record_apply _ _), if_pos rfl]
  rfl

theorem accept_of_live (invoke : Invoke) (method params : Value) (answerable : Bool)
    (live : session.lifecycle.stopped = false) :
    accept invoke method params answerable session =
      (do
        let handled ← route invoke method params answerable session.identifiers.next
        return (session.identifiers.next, handled) : Action Session (Int × Bool))
        (session.dispatching method answerable) := by
  rw [accept, Action.get_bind_apply, isTerminated, live,
    Action.bind_of_value (record_apply _ _), if_neg (by simp)]
  rfl

theorem accept_of_receivers (invoke : Invoke) {name : String} (params : Value) (answerable : Bool)
    (live : session.lifecycle.stopped = false) (custom : name ≠ "initialize" ∧ name ≠ "exit")
    (has : session.registry.hasReceivers name = true) :
    ∃ shared feedback, accept invoke (.string name) params answerable session =
      (do
        Action.recover
          (do let _ ← dispatch invoke name shared (.exchange session.identifiers.next)) feedback
        return (session.identifiers.next, true) : Action Session (Int × Bool))
        (session.dispatching (.string name) answerable) := by
  have held : (session.dispatching (.string name) answerable).registry.hasReceivers name = true :=
    has
  rw [accept_of_live invoke (.string name) params answerable live, Action.bind_apply,
    route_of_custom invoke params answerable session.identifiers.next custom,
    Action.get_bind_apply, if_pos held, ← Action.bind_apply, bind_assoc]
  exact ⟨_, _, rfl⟩

theorem dispatching_moves (live : session.lifecycle.stopped = false) (answerable : Bool)
    {α : Type} {action : Action Session α}
    (moves : Moves since (session.dispatching method answerable) action)
    (entered : since ≤ session.identifiers.next) :
    Changes since session (action (session.dispatching method answerable)).2 := by
  have opened : Changes since session (session.dispatching method answerable) :=
    (Changes.single (.opened method answerable live)).tail (.remarked _ rfl)
  exact opened.trans (moves (Int.le_trans entered opened.next_le))

theorem request_of_stopped (invoke : Invoke) (method params : Value)
    (onAcknowledge : Option (Int → Program)) (stopped : session.lifecycle.stopped = true) :
    request invoke method params onAcknowledge session =
      (.failed (.peer (.sessionTerminated
        (.string ("Session terminated; " ++ method.display ++ " rejected")))),
        session.noting (.arrived method true false)) := by
  rw [request, Action.bind_apply, accept_of_stopped invoke method params true stopped]

theorem request_of_live (invoke : Invoke) (method params : Value)
    (onAcknowledge : Option (Int → Program)) (live : session.lifecycle.stopped = false) :
    request invoke method params onAcknowledge session =
      (do
        let handled ← route invoke method params true session.identifiers.next
        finishRequest session.identifiers.next onAcknowledge handled : Action Session RequestReport)
        (session.dispatching method true) := by
  rw [request, Action.bind_apply, accept_of_live invoke method params true live,
    ← Action.bind_apply, bind_assoc]
  rfl

theorem request_finished (moving : Invoke.Moves invoke) {onAcknowledge : Option (Int → Program)}
    {report : RequestReport}
    (came : request invoke method params onAcknowledge session = (.value report, after)) :
    ∃ handled before,
      route invoke method params true session.identifiers.next (session.dispatching method true) =
        (.value handled, before) ∧
      Finished session.identifiers.next onAcknowledge before report after := by
  cases stopped : session.lifecycle.stopped with
  | true =>
      rw [request_of_stopped invoke method params onAcknowledge stopped] at came
      cases came
  | false =>
      rw [request_of_live invoke method params onAcknowledge stopped] at came
      rcases Action.value_of_bind came with ⟨handled, before, way, rest⟩
      have routed := route_routed moving (dispatching_receiving session method true) way
      rcases finishRequest_finished routed onAcknowledge handled with
        ⟨other, last, same, finished⟩
      rw [same] at rest
      cases rest
      exact ⟨handled, before, way, finished⟩

theorem request_inside (moving : Invoke.Moves invoke) (method params : Value)
    (onAcknowledge : Option (Int → Program)) (entered : since ≤ session.identifiers.next) :
    Moves since (session.dispatching method true) (do
      let handled ← route invoke method params true session.identifiers.next
      finishRequest session.identifiers.next onAcknowledge handled) := by
  apply (route_moves moving method params true entered).bind
  intro handled came
  have routed : Routed session.identifiers.next (route invoke method params true
      session.identifiers.next (session.dispatching method true)).2 :=
    route_routed moving (dispatching_receiving session method true) (Prod.ext came rfl)
  exact finishRequest_moves routed entered onAcknowledge handled

theorem request_changes (moving : Invoke.Moves invoke) (method params : Value)
    (onAcknowledge : Option (Int → Program)) (live : session.lifecycle.stopped = false) :
    Changes session.identifiers.next (session.dispatching method true)
      (request invoke method params onAcknowledge session).2 := by
  rw [request_of_live invoke method params onAcknowledge live]
  exact request_inside moving method params onAcknowledge (Int.le_refl _)
    (Int.le_of_lt (Int.lt_succ _))

theorem request_moves (moving : Invoke.Moves invoke) (method params : Value)
    (onAcknowledge : Option (Int → Program)) :
    Moves since session (request invoke method params onAcknowledge) := by
  intro entered
  cases stopped : session.lifecycle.stopped with
  | true =>
      rw [request_of_stopped invoke method params onAcknowledge stopped]
      exact .single (.refused method true stopped)
  | false =>
      rw [request_of_live invoke method params onAcknowledge stopped]
      exact dispatching_moves stopped true
        (request_inside moving method params onAcknowledge entered) entered

theorem notify_state (invoke : Invoke) (method params : Value) (session : Session) :
    (notify invoke method params session).2 = (accept invoke method params false session).2 :=
  Action.bind_pure_state _ _ session

theorem notify_of_live (invoke : Invoke) (method params : Value)
    (live : session.lifecycle.stopped = false) :
    notify invoke method params session =
      (do
        let _ ← route invoke method params false session.identifiers.next
        return () : Action Session Unit) (session.dispatching method false) := by
  rw [notify, Action.bind_apply, accept_of_live invoke method params false live,
    ← Action.bind_apply, bind_assoc]
  rfl

theorem notify_changes (moving : Invoke.Moves invoke) (method params : Value)
    (live : session.lifecycle.stopped = false) :
    Changes session.identifiers.next (session.dispatching method false)
      (notify invoke method params session).2 := by
  rw [notify_of_live invoke method params live]
  exact (route_moves moving method params false (Int.le_refl _)).seq (fun _ _ => .pure _)
    (Int.le_of_lt (Int.lt_succ _))

theorem notify_moves (moving : Invoke.Moves invoke) (method params : Value) :
    Moves since session (notify invoke method params) := by
  apply Moves.seq _ fun _ _ => .pure _
  intro entered
  cases stopped : session.lifecycle.stopped with
  | true =>
      rw [accept_of_stopped invoke method params false stopped]
      exact .single (.refused method false stopped)
  | false =>
      rw [accept_of_live invoke method params false stopped]
      exact dispatching_moves stopped false
        ((route_moves moving method params false entered).seq fun _ _ => .pure _) entered

end RpcSession.Session
