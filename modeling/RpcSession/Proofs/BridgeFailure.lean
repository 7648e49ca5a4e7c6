import RpcSession.Proofs.Bridge
import RpcSession.Proofs.RequestFailure

/-!
# Failures of messages

A message of the peer fails only by an abort. A receiver that aborts is one way to get one; the
other is a receiver that gives an abort as the first answer to a request, which makes the abort the
outcome of the request, and no response can tell it.
-/

namespace RpcSession.Session

variable {session after : Session} {invoke : Invoke} {members : List (String × Value)}
variable {method params : Value} {identifier : Int} {answerable : Bool}

/-! ## Ends of calls -/

inductive CallEnd (answerable : Bool) (identifier : Int) : Outcome Bool × Session → Prop
  | exhausted {after : Session}
      (cut : (returns identifier after.history).length < (calls identifier after.history).length) :
      CallEnd answerable identifier (.exhausted, after)
  | aborted {after : Session} {failure : Failure}
      (raised : failure ∈ failures identifier after.history)
      (abort : failure.isOrdinary = false) :
      CallEnd answerable identifier (.failed failure, after)
  | failed {after : Session} {failure : Failure} (ordinary : failure.isOrdinary = true)
      (unanswered : answerable = true → settlements identifier after.history = []) :
      CallEnd answerable identifier (.failed failure, after)
  | passed {after : Session} {handled : Bool} :
      CallEnd answerable identifier (.value handled, after)

private theorem CallEnd.of_value {result : Outcome Bool × Session} {handled : Bool}
    (came : result.1 = .value handled) : CallEnd answerable identifier result := by
  rcases result with ⟨outcome, after⟩
  cases came
  exact .passed

private theorem ignoreMethod_end (method : Value)
    (unanswered : settlements identifier session.history = []) :
    CallEnd answerable identifier
      ((do ignoreMethod method; return false : Action Session Bool) session) := by
  rw [Action.bind_apply, ignoreMethod, Action.get_bind_apply]
  cases session.configuration.strictMethods with
  | true => exact .failed rfl fun _ => unanswered
  | false => exact .passed

private theorem route_aside_end (invoke : Invoke) (params : Value)
    (unanswered : settlements identifier session.history = [])
    (aside : ¬session.IsDispatched method) :
    CallEnd answerable identifier (route invoke method params answerable identifier session) := by
  cases method with
  | array | object => exact .failed rfl fun _ => unanswered
  | null | bool | int | float | foreign => exact ignoreMethod_end _ unanswered
  | string name =>
      by_cases first : name = "initialize"
      · subst first
        apply CallEnd.of_value
        exact route_of_initialize invoke params answerable identifier
      by_cases second : name = "exit"
      · subst second
        exact .of_value (route_of_exit invoke params answerable identifier)
      have lacks : ¬session.registry.hasReceivers name = true :=
        fun has => aside ⟨name, rfl, ⟨first, second⟩, has⟩
      rw [route_of_custom invoke params answerable identifier ⟨first, second⟩,
        Action.get_bind_apply, if_neg lacks]
      exact ignoreMethod_end _ unanswered

theorem call_end (moving : Invoke.Moves invoke)
    (receiving : Receiving answerable identifier [] session)
    (unanswered : settlements identifier session.history = []) (method params : Value) :
    CallEnd answerable identifier (route invoke method params answerable identifier session) := by
  by_cases dispatched : session.IsDispatched method
  · rcases dispatched with ⟨name, rfl, custom, has⟩
    rcases route_end moving receiving params custom has with
      ⟨shared, recent, outcome, trace, received, ended⟩
    cases way : route invoke (.string name) params answerable identifier session with
    | mk reply after =>
        rw [way] at received ended
        cases ended with
        | exhausted =>
            refine .exhausted ?_
            rw [returns, calls, received]
            exact trace.of_exhausted rfl
        | aborted =>
            rcases trace.of_failed rfl with ⟨member, abort⟩
            refine .aborted ?_ abort
            rw [failures, returns, received]
            exact member
        | unheard unwanted ordinary => exact .failed ordinary (by simp [unwanted])
        | refused refused =>
            refine .failed rfl fun _ => ?_
            simp only [isRefused, Bool.and_eq_true, List.isEmpty_iff] at refused
            exact refused.1
        | passed => exact .passed
  · exact route_aside_end invoke params unanswered dispatched

theorem dispatching_unanswered (session : Session) (method : Value) (answerable : Bool) :
    settlements session.identifiers.next (session.dispatching method answerable).history = [] := by
  simp [dispatching, opening, noting, numbering, settlements_cons, Event.numbers,
    Event.settlement?]

/-! ## Requests and notifications

If its receivers behave, all that a caller of a request sees can be told to a peer, but for an
abort that the request was answered with. -/

/-- The receivers of a call came back, and none of them aborted. -/
structure Behaved (identifier : Int) (history : List Event) : Prop where
  back : (returns identifier history).length = (calls identifier history).length
  ordinary : ∀ failure ∈ failures identifier history, failure.isOrdinary = true

theorem Alike.behaved {first second : List Event} (alike : Alike identifier first second) :
    Behaved identifier first ↔ Behaved identifier second := by
  constructor
  · rintro ⟨back, ordinary⟩
    rw [alike.returns, alike.calls] at back
    rw [alike.failures] at ordinary
    exact ⟨back, ordinary⟩
  · rintro ⟨back, ordinary⟩
    rw [← alike.returns, ← alike.calls] at back
    rw [← alike.failures] at ordinary
    exact ⟨back, ordinary⟩

/-- The abort that a request is first answered with, if it is. -/
def abortAnswer? (identifier : Int) (history : List Event) : Option Failure :=
  match (settlements identifier history).head? with
  | some (.error failure) => if failure.isOrdinary then none else some failure
  | _ => none

theorem Alike.abortAnswer?_eq {first second : List Event}
    (alike : Alike identifier first second) :
    abortAnswer? identifier first = abortAnswer? identifier second := by
  rw [abortAnswer?, alike.settlements, abortAnswer?]

def IsTellable : Outcome Value → Prop
  | .value _ => True
  | .failed failure => failure.isOrdinary = true
  | .exhausted => False

private theorem report_tellable {history : List Event} {report : RequestReport}
    (lawful : report.outcome = lawfulOutcome identifier history)
    (behaved : Behaved identifier history) :
    match abortAnswer? identifier history with
    | some failure => seen (.value report) = .failed failure ∧ failure.isOrdinary = false
    | none => IsTellable (seen (.value report)) := by
  rw [abortAnswer?, seen, lawful, lawfulOutcome]
  cases answered : (settlements identifier history).head? with
  | some answer =>
      cases answer with
      | ok value => exact trivial
      | error failure =>
          cases ordinary : failure.isOrdinary with
          | true =>
              dsimp only
              rw [if_pos ordinary]
              exact ordinary
          | false =>
              dsimp only
              rw [if_neg (by simp [ordinary])]
              exact ⟨rfl, ordinary⟩
  | none =>
      cases failed : (failures identifier history).head? with
      | none => exact trivial
      | some failure =>
          exact behaved.ordinary failure (List.mem_of_mem_head? (Option.mem_def.mpr failed))

private theorem request_tellable (moving : Invoke.Moves invoke)
    (live : session.lifecycle.stopped = false) {outcome : Outcome RequestReport}
    (came : request invoke method params none session = (outcome, after))
    (behaved : Behaved session.identifiers.next after.history) :
    match abortAnswer? session.identifiers.next after.history with
    | some failure => seen outcome = .failed failure ∧ failure.isOrdinary = false
    | none => IsTellable (seen outcome) := by
  have receiving := dispatching_receiving session method true
  have ended := call_end moving receiving (dispatching_unanswered session method true) method
    params
  rw [request_of_live invoke method params none live, Action.bind_apply] at came
  rw [abortAnswer?]
  cases way : route invoke method params true session.identifiers.next
      (session.dispatching method true) with
  | mk reply middle =>
      rw [way] at came ended
      cases ended with
      | exhausted cut =>
          cases came
          exact absurd behaved.back (Nat.ne_of_lt cut)
      | aborted raised abort =>
          cases came
          rw [behaved.ordinary _ raised] at abort
          cases abort
      | failed ordinary unanswered =>
          cases came
          rw [unanswered rfl]
          exact ordinary
      | @passed _ handled =>
          have routed := route_routed moving receiving way
          rcases finishRequest_finished routed none handled with ⟨report, last, same, finished⟩
          dsimp only at came
          rw [same] at came
          cases came
          have tellable := report_tellable finished.lawful behaved
          rw [abortAnswer?] at tellable
          exact tellable

private theorem notify_hushed (moving : Invoke.Moves invoke)
    (live : session.lifecycle.stopped = false)
    {outcome : Outcome Unit} (came : notify invoke method params session = (outcome, after))
    (behaved : Behaved session.identifiers.next after.history) :
    hushed outcome = .value .null := by
  have receiving := dispatching_receiving session method false
  have ended := call_end moving receiving (dispatching_unanswered session method false) method
    params
  rw [notify, Action.bind_apply, accept_of_live invoke method params false live,
    Action.bind_apply] at came
  cases way : route invoke method params false session.identifiers.next
      (session.dispatching method false) with
  | mk reply middle =>
      rw [way] at came ended
      cases ended with
      | exhausted cut =>
          cases came
          exact absurd behaved.back (Nat.ne_of_lt cut)
      | aborted raised abort =>
          cases came
          rw [behaved.ordinary _ raised] at abort
          cases abort
      | failed ordinary =>
          cases came
          exact if_pos ordinary
      | passed =>
          cases came
          rfl

/-! ## Messages -/

theorem SameOrLogged.alike (same : SameOrLogged session after) :
    Alike identifier after.history session.history := by
  rcases same with rfl | ⟨logged, rfl⟩
  · exact .refl _
  · exact (Alike.refl _).cons ⟨rfl, rfl, rfl⟩

/-- Whether a request of the peer gets a response with its identifier. -/
def IsAnswered (identifier : Value) (bridged : Outcome Value) : Prop :=
  ∃ answer response, bridged = .value response ∧ Tells identifier answer response

theorem Told.of_tellable {identifier : Value} {outcome bridged : Outcome Value}
    (told : Told identifier outcome bridged) (tellable : IsTellable outcome) :
    IsAnswered identifier bridged := by
  cases told with
  | result tells => exact ⟨_, _, rfl, tells⟩
  | failure ordinary tells => exact ⟨_, _, rfl, tells⟩
  | aborted abort =>
      have ordinary : _ = true := tellable
      rw [abort] at ordinary
      cases ordinary
  | exhausted => exact tellable.elim

private theorem Told.of_abort {identifier : Value} {outcome bridged : Outcome Value}
    {failure : Failure} (told : Told identifier outcome bridged) (came : outcome = .failed failure)
    (abort : failure.isOrdinary = false) : bridged = .failed failure := by
  cases told with
  | result => cases came
  | exhausted => cases came
  | aborted => exact came
  | failure ordinary =>
      cases came
      rw [ordinary] at abort
      cases abort

theorem handleMessage_told (invoke : Invoke) (session : Session)
    {members : List (String × Value)} {method identifier : Value}
    (isRequest : IsRequest (.object members) method identifier) :
    let result := handleMessage invoke (.object members) session
    let logged := session.noting (.logged (receipt (.object members)))
    ∃ outcome after,
      request invoke method (paramsOf (.object members)) none logged = (outcome, after) ∧
      Told identifier (seen outcome) result.1 ∧
      ∀ number, Alike number result.2.history after.history := by
  intro result logged
  have applied : result =
      respondToRequest invoke identifier method (paramsOf (.object members)) logged :=
    handleMessage_of_request invoke session isRequest
  rw [applied]
  cases came : request invoke method (paramsOf (.object members)) none logged with
  | mk outcome after =>
      have told := respondToRequest_told identifier came
      exact ⟨outcome, after, rfl, told.1, fun number => told.2.alike⟩

private theorem handleMessage_of_stopped (invoke : Invoke)
    (stopped : session.lifecycle.stopped = true)
    {method identifier : Value} (isRequest : IsRequest (.object members) method identifier) :
    IsAnswered identifier (handleMessage invoke (.object members) session).1 := by
  rcases handleMessage_told invoke session isRequest with ⟨outcome, after, came, told, _⟩
  let logged := session.noting (.logged (receipt (.object members)))
  have ended : logged.lifecycle.stopped = true := stopped
  have refused := request_of_stopped invoke method (paramsOf (.object members)) none ended
  cases came.symm.trans refused
  exact told.of_tellable rfl

private theorem handleMessage_of_behaved (moving : Invoke.Moves invoke)
    (live : session.lifecycle.stopped = false) {method identifier : Value}
    (isRequest : IsRequest (.object members) method identifier) :
    let number := session.identifiers.next
    let result := handleMessage invoke (.object members) session
    Behaved number result.2.history →
      match abortAnswer? number result.2.history with
      | some failure => result.1 = .failed failure
      | none => IsAnswered identifier result.1 := by
  intro number result behaved
  rcases handleMessage_told invoke session isRequest with ⟨outcome, after, came, told, alike⟩
  let logged := session.noting (.logged (receipt (.object members)))
  have running : logged.lifecycle.stopped = false := live
  have tellable := request_tellable moving running came ((alike number).behaved.mp behaved)
  have same : abortAnswer? logged.identifiers.next after.history =
      abortAnswer? number result.2.history := (alike number).abortAnswer?_eq.symm
  rw [same] at tellable
  cases answered : abortAnswer? number result.2.history with
  | none =>
      rw [answered] at tellable
      exact told.of_tellable tellable
  | some failure =>
      rw [answered] at tellable
      exact told.of_abort tellable.1 tellable.2

private theorem handleMessage_of_notification_behaved (moving : Invoke.Moves invoke)
    (session : Session) (isNotification : IsNotification (.object members) method) :
    let result := handleMessage invoke (.object members) session
    (session.lifecycle.stopped = false →
      Behaved session.identifiers.next result.2.history) → result.1 = .value .null := by
  intro result behaved
  let params := paramsOf (.object members)
  let logged := session.noting (.logged (receipt (.object members)))
  have applied : result = (do
      takeNotification invoke method params
      return .null : Action Session Value) logged :=
    handleMessage_of_notification invoke session isNotification
  cases came : notify invoke method params logged with
  | mk outcome after =>
      have hush := takeNotification_hushed came
      rw [← applied] at hush
      rw [hush.1]
      cases stopped : logged.lifecycle.stopped with
      | true =>
          rw [notify, Action.bind_apply, accept_of_stopped invoke method _ false stopped] at came
          cases came
          rfl
      | false =>
          have kept : Behaved logged.identifiers.next after.history :=
            hush.2.alike.behaved.mp (behaved stopped)
          exact notify_hushed moving stopped came kept

/-- A message comes back if the receivers of the call that it makes do and none of them aborts,
unless it is a request that was first answered with an abort, with which it fails then. A request
gets a response with its identifier. -/
theorem handleMessage_returns_unless (fuel : Nat) (session : Session)
    (members : List (String × Value)) :
    let message := Value.object members
    let number := session.identifiers.next
    let live := session.lifecycle.stopped = false
    let result := handleMessage (run fuel) message session
    (∀ method identifier, IsRequest message method identifier →
      (live → Behaved number result.2.history ∧
        abortAnswer? number result.2.history = none) →
      ∃ answer response, result.1 = .value response ∧ Tells identifier answer response) ∧
    (∀ method identifier failure, IsRequest message method identifier → live →
      Behaved number result.2.history →
      abortAnswer? number result.2.history = some failure → result.1 = .failed failure) ∧
    (∀ method, IsNotification message method → (live → Behaved number result.2.history) →
      result.1 = .value .null) ∧
    ((∀ method identifier, ¬IsRequest message method identifier) →
      (∀ method, ¬IsNotification message method) → result.1 = .value .null) := by
  intro message number live result
  refine ⟨?_, ?_, ?_, ?_⟩
  · intro method identifier isRequest behaved
    cases stopped : session.lifecycle.stopped with
    | true => exact handleMessage_of_stopped (run fuel) stopped isRequest
    | false =>
        rcases behaved stopped with ⟨kept, unaborted⟩
        have ended := handleMessage_of_behaved (run_moves fuel) stopped isRequest kept
        rwa [unaborted] at ended
  · intro method identifier failure isRequest running behaved answered
    have ended := handleMessage_of_behaved (run_moves fuel) running isRequest behaved
    rwa [answered] at ended
  · intro method isNotification behaved
    exact handleMessage_of_notification_behaved (run_moves fuel) session isNotification behaved
  · intro noRequest noNotification
    rcases handleMessage_of_other (run fuel) session noRequest noNotification with
      ⟨ignored, applied⟩
    have same : result = _ := applied
    rw [same]

/-- The only receiver raises an ordinary failure, which the response tells. -/
theorem handleMessage_returns_unless_of_key :
    let session := ({} : Session).after [(1, .register "m" fun _ _ => .fail (.host .key []))]
    let message := Value.object
      [("jsonrpc", .string "2.0"), ("id", .int 7), ("method", .string "m")]
    ∃ answer response, (handleMessage (run 2) message session).1 = .value response ∧
      Tells (.int 7) answer response := by
  intro session message
  have law := handleMessage_returns_unless 2 session
    [("jsonrpc", .string "2.0"), ("id", .int 7), ("method", .string "m")]
  have behaved : Behaved session.identifiers.next
      (handleMessage (run 2) message session).2.history :=
    ⟨by decide +kernel, by decide +kernel⟩
  exact law.1 (.string "m") (.int 7) ⟨rfl, rfl, _, rfl⟩ fun _ =>
    ⟨behaved, by with_unfolding_all rfl⟩

/-- The only receiver answers with an abort and comes back without a failure. The message fails
all the same. -/
theorem handleMessage_fails_of_abort_answer :
    let session := ({} : Session).after
      [(1, .register "m" fun _ responder =>
        .andThen (.respond responder { complaint := some (.failure (.host .abort [])) })
          (.done .null))]
    let message := Value.object
      [("jsonrpc", .string "2.0"), ("id", .int 7), ("method", .string "m")]
    let result := handleMessage (run 3) message session
    Reachable session ∧ IsRequest message (.string "m") (.int 7) ∧
      (returns 1 result.2.history).map (·.1) = [1] ∧ failures 1 result.2.history = [] ∧
      result.1 = .failed (.host .abort []) := by
  intro session message result
  have reachable : Reachable session := (Reachable.new isNew_default).after _
  refine ⟨reachable, ⟨rfl, rfl, _, rfl⟩, by decide +kernel, ?_, ?_⟩
  · with_unfolding_all rfl
  · with_unfolding_all rfl

end RpcSession.Session
