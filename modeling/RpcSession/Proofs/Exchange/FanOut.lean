import RpcSession.Proofs.Exchange.Basic

/-!
# The receivers of an exchange

What the history keeps of a fan-out is determined by what its receivers come to: they are called
in order, each after the one before came back, until one of them aborts or runs out of fuel.
-/

namespace RpcSession.Session

variable {method : String} {params : Value} {responder : Responder}

/-! ## Traces of fan-outs -/

def afterFailure (failure : Failure) : Outcome (Option Failure) → Outcome (Option Failure)
  | .value _ => .value (some failure)
  | .failed other => .failed other
  | .exhausted => .exhausted

/-- The calls and returns of a fan-out to some receivers, and what it comes to. -/
inductive FanOut (method : String) (params : Value) (responder : Responder) :
    List (Int × Receiver) → List Event → Outcome (Option Failure) → Prop
  | finished : FanOut method params responder [] [] (.value none)
  | exhausted (subscription receiver) (receivers : List (Int × Receiver)) :
      FanOut method params responder ((subscription, receiver) :: receivers)
        [.called subscription method params responder] .exhausted
  | returned {receivers : List (Int × Receiver)} {events : List Event}
      {outcome : Outcome (Option Failure)} (subscription receiver value)
      (rest : FanOut method params responder receivers events outcome) :
      FanOut method params responder ((subscription, receiver) :: receivers)
        (.called subscription method params responder ::
          .returned subscription responder (.ok value) :: events) outcome
  | failed {receivers : List (Int × Receiver)} {events : List Event}
      {outcome : Outcome (Option Failure)} (subscription receiver) {failure : Failure}
      (ordinary : failure.isOrdinary = true)
      (rest : FanOut method params responder receivers events outcome) :
      FanOut method params responder ((subscription, receiver) :: receivers)
        (.called subscription method params responder ::
          .returned subscription responder (.error failure) :: events)
        (afterFailure failure outcome)
  | aborted (subscription receiver) (receivers : List (Int × Receiver)) {failure : Failure}
      (abort : failure.isOrdinary = false) :
      FanOut method params responder ((subscription, receiver) :: receivers)
        [.called subscription method params responder,
          .returned subscription responder (.error failure)] (.failed failure)

variable {receivers : List (Int × Receiver)} {events : List Event}
variable {outcome : Outcome (Option Failure)}

def failuresOf (events : List Event) : List Failure :=
  (events.filterMap Event.return?).filterMap (failure? ·.2)

namespace FanOut

theorem of_value {first : Option Failure}
    (fanOut : FanOut method params responder receivers events outcome)
    (finished : outcome = .value first) :
    events.filterMap Event.call? = receivers.map (·.1) ∧
      (events.filterMap Event.return?).map (·.1) = receivers.map (·.1) ∧
      (failuresOf events).head? = first ∧
      ∀ failure ∈ failuresOf events, failure.isOrdinary = true := by
  induction fanOut generalizing first with
  | finished =>
      cases finished
      simp [failuresOf]
  | exhausted => cases finished
  | aborted => cases finished
  | returned subscription receiver value rest induction =>
      rcases induction finished with ⟨called, returned, head, ordinary⟩
      exact ⟨congrArg (subscription :: ·) called, congrArg (subscription :: ·) returned, head,
        ordinary⟩
  | @failed receivers events outcome subscription receiver failure ordinary rest induction =>
      cases outcome with
      | failed other => cases finished
      | exhausted => cases finished
      | value last =>
          cases finished
          rcases induction rfl with ⟨called, returned, _, others⟩
          refine ⟨congrArg (subscription :: ·) called, congrArg (subscription :: ·) returned, rfl,
            ?_⟩
          intro other member
          rcases List.mem_cons.mp member with same | later
          · rw [same]
            exact ordinary
          · exact others other later

theorem calls_prefix (fanOut : FanOut method params responder receivers events outcome) :
    events.filterMap Event.call? <+: receivers.map (·.1) := by
  induction fanOut with
  | finished => exact List.prefix_rfl
  | exhausted subscription receiver receivers
  | aborted subscription receiver receivers =>
      exact (List.prefix_cons_inj subscription).mpr List.nil_prefix
  | returned subscription receiver value rest induction =>
      exact (List.prefix_cons_inj subscription).mpr induction
  | failed subscription receiver ordinary rest induction =>
      exact (List.prefix_cons_inj subscription).mpr induction

theorem calls_ne_nil (fanOut : FanOut method params responder receivers events outcome)
    (some : receivers ≠ []) : events.filterMap Event.call? ≠ [] := by
  cases fanOut with
  | finished => exact absurd rfl some
  | _ => exact List.cons_ne_nil _ _

theorem of_failed {failure : Failure}
    (fanOut : FanOut method params responder receivers events outcome)
    (failed : outcome = .failed failure) :
    failure ∈ failuresOf events ∧ failure.isOrdinary = false := by
  induction fanOut with
  | finished => cases failed
  | exhausted => cases failed
  | aborted subscription receiver receivers abort =>
      cases failed
      exact ⟨List.mem_singleton_self _, abort⟩
  | returned subscription receiver value rest induction => exact induction failed
  | @failed receivers events outcome subscription receiver other ordinary rest induction =>
      cases outcome with
      | value last => cases failed
      | exhausted => cases failed
      | failed last =>
          cases failed
          rcases induction rfl with ⟨member, abort⟩
          exact ⟨List.mem_cons_of_mem _ member, abort⟩

/-- A fan-out that runs out of fuel does so in a receiver, which does not come back. -/
theorem of_exhausted (fanOut : FanOut method params responder receivers events outcome)
    (exhausted : outcome = .exhausted) :
    (events.filterMap Event.return?).length < (events.filterMap Event.call?).length := by
  induction fanOut with
  | finished => cases exhausted
  | aborted => cases exhausted
  | exhausted => exact Nat.zero_lt_one
  | returned subscription receiver value rest induction =>
      exact Nat.succ_lt_succ (induction exhausted)
  | @failed receivers events outcome subscription receiver failure ordinary rest induction =>
      cases outcome with
      | value last => cases exhausted
      | failed other => cases exhausted
      | exhausted => exact Nat.succ_lt_succ (induction rfl)

end FanOut

/-! ## Running a fan-out

While the receivers of an exchange run, it stays under way: other code leaves it as it is, and
the answer that a result makes is always accepted. -/

variable {answerable : Bool} {identifier : Int} {session : Session} {α : Type}

structure Receiving (answerable : Bool) (identifier : Int) (events : List Event)
    (session : Session) : Prop extends Underway answerable identifier session where
  received : receiverEvents identifier session.history = events

namespace Receiving

theorem moves {action : Action Session α}
    (receiving : Receiving answerable identifier events session)
    (moves : Moves session.identifiers.next session action) :
    Receiving answerable identifier events (action session).2 := by
  have changes := moves (Int.le_refl _)
  constructor
  · exact receiving.toUnderway.changes receiving.taken changes
  · rw [changes.receiverEvents_eq receiving.taken receiving.taken]
    exact receiving.received

private theorem noting (receiving : Receiving answerable identifier events session) (event : Event)
    (other : event.numbers identifier = false) (silent : event.settlement? identifier = none)
    (own : event.isOfReceiver identifier = true) :
    Receiving answerable identifier (events ++ [event]) (session.noting event) := by
  constructor
  · exact receiving.toUnderway.noting event other silent
  · rw [Session.noting, receiverEvents_cons, other, own, receiving.received]
    rfl

end Receiving

variable {invoke : Invoke}

theorem respond_result (invoke : Invoke) (session : Session) (identifier : Int)
    (result : Value) :
    (respond invoke (.exchange identifier) { result } session).1 = .value () := by
  rw [respond_apply]
  rcases deliver_cases invoke
    (session.noting (.answered (.exchange identifier) { result })) identifier { result } with
    ⟨_, _, _, delivered⟩ | ⟨_, delivered | ⟨_, delivered⟩ | ⟨_, refused, _⟩⟩
  · rw [delivered]
  · rw [delivered]
  · rw [delivered]
  · cases refused

def replied : Except Failure Value → Outcome Unit
  | .ok _ => .value ()
  | .error failure => .failed failure

private theorem callReceiver_receiving (moving : Invoke.Moves invoke) (method : String)
    (params : Value)
    (receiving : Receiving answerable identifier events session) (subscription : Int)
    (receiver : Receiver) :
    let result :=
      callReceiver invoke method params (.exchange identifier) subscription receiver session
    let called := Event.called subscription method params (.exchange identifier)
    (result.1 = .exhausted ∧ Receiving answerable identifier (events ++ [called]) result.2) ∨
      ∃ outcome, result.1 = replied outcome ∧
        Receiving answerable identifier
          (events ++ [called, .returned subscription (.exchange identifier) outcome])
          result.2 := by
  intro result called
  have begun : Receiving answerable identifier (events ++ [called]) (session.noting called) :=
    receiving.noting called rfl rfl (by simp [called, Event.isOfReceiver])
  have run := begun.moves (runReceiver_moves moving receiver params (.exchange identifier))
  have steps : result = finishReceiver invoke params (.exchange identifier) subscription receiver
      (session.noting called) := callReceiver_apply ..
  rw [steps, finishReceiver, Action.bind_apply]
  rcases Action.attempt_cases (runReceiver invoke receiver params (.exchange identifier))
    (session.noting called) with ran | ⟨outcome, ran⟩
  · left
    rw [ran]
    exact ⟨rfl, run⟩
  · right
    refine ⟨outcome, ?_⟩
    have returned := run.noting
      (.returned subscription (.exchange identifier) outcome) rfl rfl
      (by simp [Event.isOfReceiver])
    rw [List.append_assoc] at returned
    rw [ran]
    dsimp only
    rw [Action.bind_of_value (record_apply _ _)]
    cases outcome with
    | error failure => exact ⟨rfl, returned⟩
    | ok value =>
        rw [Action.ofExcept_ok_bind]
        split
        · exact ⟨respond_result _ _ _ _, returned.moves (respond_moves moving _ _)⟩
        · exact ⟨rfl, returned⟩

section Steps

variable {subscription : Int} {receiver : Receiver} {middle : Session} {failure : Failure}

theorem fanOut_of_value
    (came : callReceiver invoke method params responder subscription receiver session =
      (.value (), middle)) :
    fanOut invoke method params responder ((subscription, receiver) :: receivers) session =
      fanOut invoke method params responder receivers middle := by
  rw [fanOut, Action.bind_apply, Action.attempt, came]

theorem fanOut_of_exhausted
    (came : callReceiver invoke method params responder subscription receiver session =
      (.exhausted, middle)) :
    fanOut invoke method params responder ((subscription, receiver) :: receivers) session =
      (.exhausted, middle) := by
  rw [fanOut, Action.bind_apply, Action.attempt, came]

theorem fanOut_of_abort
    (came : callReceiver invoke method params responder subscription receiver session =
      (.failed failure, middle)) (abort : failure.isOrdinary = false) :
    fanOut invoke method params responder ((subscription, receiver) :: receivers) session =
      (.failed failure, middle) := by
  rw [fanOut, Action.bind_apply, Action.attempt, came]
  dsimp only
  rw [if_neg (by simp [abort])]
  rfl

theorem fanOut_of_failure (receivers : List (Int × Receiver))
    (came : callReceiver invoke method params responder subscription receiver session =
      (.failed failure, middle)) (ordinary : failure.isOrdinary = true) :
    ∃ entry, fanOut invoke method params responder ((subscription, receiver) :: receivers) session =
      (afterFailure failure
        (fanOut invoke method params responder receivers (middle.noting (.logged entry))).1,
       (fanOut invoke method params responder receivers (middle.noting (.logged entry))).2) := by
  let entry : LogEntry := ⟨.error, "notify_ls.receivers",
    "Receiver " ++ toString subscription ++ " for " ++ method ++ " failed", some failure⟩
  have tail : ∀ state : Session,
      (do let _ ← fanOut invoke method params responder receivers
          return some failure : Action Session (Option Failure)) state =
        (afterFailure failure (fanOut invoke method params responder receivers state).1,
         (fanOut invoke method params responder receivers state).2) := by
    intro state
    rw [Action.bind_apply]
    cases fanOut invoke method params responder receivers state with
    | mk rest after => cases rest <;> rfl
  refine ⟨entry, ?_⟩
  rw [fanOut, Action.bind_apply, Action.attempt, came]
  dsimp only
  rw [if_pos ordinary]
  exact tail _

end Steps

theorem fanOut_receiving (moving : Invoke.Moves invoke) (method : String) (params : Value)
    (receiving : Receiving answerable identifier events session)
    (receivers : List (Int × Receiver)) :
    let result := fanOut invoke method params (.exchange identifier) receivers session
    ∃ recent, FanOut method params (.exchange identifier) receivers recent result.1 ∧
      Receiving answerable identifier (events ++ recent) result.2 := by
  induction receivers generalizing events session with
  | nil =>
      refine ⟨[], .finished, ?_⟩
      rw [List.append_nil]
      exact receiving
  | cons entry receivers induction =>
      rcases entry with ⟨subscription, receiver⟩
      have called := callReceiver_receiving moving method params receiving subscription receiver
      cases came : callReceiver invoke method params (.exchange identifier) subscription receiver
          session with
      | mk reply middle =>
          rw [came] at called
          rcases called with ⟨cut, after⟩ | ⟨outcome, same, after⟩
          · cases cut
            rw [fanOut_of_exhausted came]
            exact ⟨_, .exhausted subscription receiver receivers, after⟩
          · cases outcome with
            | ok value =>
                cases same
                rcases induction after with ⟨recent, rest, ended⟩
                rw [fanOut_of_value came]
                rw [List.append_assoc] at ended
                exact ⟨_, .returned subscription receiver value rest, ended⟩
            | error failure =>
                cases same
                cases ordinary : failure.isOrdinary with
                | false =>
                    rw [fanOut_of_abort came ordinary]
                    exact ⟨_, .aborted subscription receiver receivers ordinary, after⟩
                | true =>
                    rcases fanOut_of_failure receivers came ordinary with
                      ⟨entry, same⟩
                    have logging : Moves middle.identifiers.next middle (record (.logged entry)) :=
                      record_moves rfl
                    have logged := after.moves logging
                    rcases induction logged with ⟨recent, rest, ended⟩
                    rw [same]
                    rw [List.append_assoc] at ended
                    exact ⟨_, .failed subscription receiver ordinary rest, ended⟩

end RpcSession.Session
