import RpcSession.Proofs.Movement.Run

/-!
# Failures of requests

What goes wrong in a receiver becomes the outcome of the request, and the request comes back all
the same. Only three things make a request of a live session fail: a receiver that aborts, a method
that a strict session does not know, and the end of a producer that no answer made up for.
-/

namespace RpcSession.Session

variable {session : Session} {invoke : Invoke} {params : Value} {name : String}

def refusesMethod (session : Session) (name : String) : Bool :=
  session.configuration.strictMethods && name != "initialize" && name != "exit" &&
    !session.registry.hasReceivers name

/-! ## Methods without receivers

Such a method is answered at once, ignored or refused. -/

theorem route_of_initialize (invoke : Invoke) (params : Value) (answerable : Bool)
    (identifier : Int) :
    (route invoke (.string "initialize") params answerable identifier session).1 =
      .value true := by
  have capabilities : route invoke (.string "initialize") params answerable identifier session =
      (do
        respond invoke (.exchange identifier)
          { result := .object [("capabilities", session.configuration.capabilities)] }
        return true : Action Session Bool) session := rfl
  have answered := respond_result invoke session identifier
    (.object [("capabilities", session.configuration.capabilities)])
  rw [capabilities, Action.bind_of_value (Prod.ext answered rfl)]
  rfl

theorem terminate_result (session : Session) : (terminate session).1 = .value () := by
  rw [terminate, Action.get_bind_apply]
  split <;> rfl

theorem route_of_exit (invoke : Invoke) (params : Value) (answerable : Bool)
    (identifier : Int) :
    (route invoke (.string "exit") params answerable identifier session).1 = .value true := by
  have answer : route invoke (.string "exit") params answerable identifier session =
      (do terminate; respond invoke (.exchange identifier) {}; return true : Action Session Bool)
        session := rfl
  rw [answer, Action.bind_of_value (Prod.ext (terminate_result session) rfl),
    Action.bind_of_value (Prod.ext (respond_result _ _ _ _) rfl)]
  rfl

theorem route_aside_result (invoke : Invoke) (params : Value) (answerable : Bool)
    (identifier : Int) (aside : ¬session.IsDispatched (.string name)) :
    if session.refusesMethod name then
      (route invoke (.string name) params answerable identifier session).1 =
        .failed (.peer (.unknownMethod (.string name)))
    else ∃ handled, (route invoke (.string name) params answerable identifier session).1 =
      .value handled := by
  by_cases first : name = "initialize"
  · subst first
    rw [if_neg (by simp [refusesMethod])]
    exact ⟨true, route_of_initialize invoke params answerable identifier⟩
  by_cases second : name = "exit"
  · subst second
    rw [if_neg (by simp [refusesMethod])]
    exact ⟨true, route_of_exit invoke params answerable identifier⟩
  have lacks : session.registry.hasReceivers name = false := by
    rw [← Bool.not_eq_true]
    exact fun has => aside ⟨name, rfl, ⟨first, second⟩, has⟩
  have ignored : route invoke (.string name) params answerable identifier session =
      (do ignoreMethod (.string name); return false : Action Session Bool) session := by
    rw [route_of_custom invoke params answerable identifier ⟨first, second⟩, Action.get_bind_apply,
      if_neg (by simp [lacks])]
  rw [ignored, Action.bind_apply, ignoreMethod, Action.get_bind_apply]
  cases strict : session.configuration.strictMethods with
  | true =>
      rw [if_pos (by simp [refusesMethod, strict, first, second, lacks])]
      rfl
  | false =>
      rw [if_neg (by simp [refusesMethod, strict])]
      exact ⟨false, rfl⟩

/-! ## What a request comes to -/

inductive Requested (session : Session) (name : String)
    (onAcknowledge : Option (Int → Program)) : Outcome RequestReport × Session → Prop
  | exhausted {after : Session}
      (cut : (returns session.identifiers.next after.history).length <
        (calls session.identifiers.next after.history).length) :
      Requested session name onAcknowledge (.exhausted, after)
  | aborted {after : Session} {failure : Failure}
      (raised : failure ∈ failures session.identifiers.next after.history)
      (abort : failure.isOrdinary = false) :
      Requested session name onAcknowledge (.failed failure, after)
  | unknown {after : Session} (unknown : session.refusesMethod name = true) :
      Requested session name onAcknowledge
        (.failed (.peer (.unknownMethod (.string name))), after)
  | refused {after : Session} (known : session.refusesMethod name = false)
      (refused : isRefused session.identifiers.next after.history = true) :
      Requested session name onAcknowledge (.failed .stopAsOutcome, after)
  | finished {before after : Session} {report : RequestReport}
      (known : session.refusesMethod name = false)
      (accepted : isRefused session.identifiers.next after.history = false)
      (finished : Finished session.identifiers.next onAcknowledge before report after) :
      Requested session name onAcknowledge (.value report, after)

theorem requested_of_routed {onAcknowledge : Option (Int → Program)} {handled : Bool}
    {middle : Session} (known : session.refusesMethod name = false)
    (routed : Routed session.identifiers.next middle)
    (accepted : isRefused session.identifiers.next middle.history = false) :
    Requested session name onAcknowledge
      (finishRequest session.identifiers.next onAcknowledge handled middle) := by
  rcases finishRequest_finished routed onAcknowledge handled with
    ⟨report, after, same, finished⟩
  rw [same]
  exact .finished known (by rw [finished.alike.isRefused, accepted]) finished

private theorem requested_of_receivers (moving : Invoke.Moves invoke)
    (onAcknowledge : Option (Int → Program)) {dispatching : Session}
    (receiving : Receiving true session.identifiers.next [] dispatching)
    (custom : name ≠ "initialize" ∧ name ≠ "exit")
    (has : dispatching.registry.hasReceivers name = true)
    (known : session.refusesMethod name = false) :
    Requested session name onAcknowledge
      ((do
        let handled ← route invoke (.string name) params true session.identifiers.next
        finishRequest session.identifiers.next onAcknowledge handled :
          Action Session RequestReport) dispatching) := by
  rcases route_end moving receiving params custom has with
    ⟨shared, recent, outcome, trace, received, ended⟩
  rw [Action.bind_apply]
  cases way : route invoke (.string name) params true session.identifiers.next dispatching with
  | mk reply after =>
      rw [way] at received ended
      cases ended with
      | exhausted =>
          refine .exhausted ?_
          rw [returns, calls, received]
          exact trace.of_exhausted rfl
      | aborted =>
          rcases trace.of_failed rfl with ⟨member, abort⟩
          refine .aborted ?_ abort
          rw [failures, returns, received]
          exact member
      | unheard unwanted => cases unwanted
      | refused refused => exact .refused known refused
      | passed routed =>
          rcases routed rfl with ⟨routed, accepted⟩
          exact requested_of_routed known routed accepted

theorem requested (moving : Invoke.Moves invoke) (params : Value)
    (onAcknowledge : Option (Int → Program)) (live : session.lifecycle.stopped = false) :
    Requested session name onAcknowledge
      (request invoke (.string name) params onAcknowledge session) := by
  have receiving := dispatching_receiving session (.string name) true
  have same : (session.dispatching (.string name) true).refusesMethod name =
      session.refusesMethod name := rfl
  rw [request_of_live invoke (.string name) params onAcknowledge live]
  by_cases dispatched : (session.dispatching (.string name) true).IsDispatched (.string name)
  · rcases dispatched with ⟨other, equal, custom, has⟩
    cases equal
    have known : session.refusesMethod name = false := by
      rw [← same, refusesMethod, has]
      simp
    exact requested_of_receivers moving onAcknowledge receiving custom has known
  · have result := route_aside_result invoke params true session.identifiers.next dispatched
    have after := receiving.moves
      (route_aside_moves invoke params true session.identifiers.next dispatched)
    rw [same] at result
    rw [Action.bind_apply]
    cases came : route invoke (.string name) params true session.identifiers.next
        (session.dispatching (.string name) true) with
    | mk outcome middle =>
        rw [came] at result after
        split at result
        · rename_i unknown
          cases result
          exact .unknown unknown
        · rename_i known
          rcases result with ⟨handled, equal⟩
          cases equal
          exact requested_of_routed (by simpa using known) (after.routed rfl)
            (after.accepted rfl)

/-! ## The exact condition -/

/-- Of a live session, a request whose receivers all came back and raised only ordinary failures
comes back with its lawful outcome, its acknowledgement scheduled, unless the session refuses the
method or the receivers left it with the end of a producer and no answer. -/
theorem request_returns_unless (fuel : Nat) (session : Session) (name : String) (params : Value)
    (onAcknowledge : Option (Int → Program))
    (live : session.lifecycle.stage ≠ .terminated) :
    let identifier := session.identifiers.next
    let result := request (run fuel) (.string name) params onAcknowledge session
    (returns identifier result.2.history).length = (calls identifier result.2.history).length →
    (∀ failure ∈ failures identifier result.2.history, failure.isOrdinary = true) →
      (session.refusesMethod name = true →
        result.1 = .failed (.peer (.unknownMethod (.string name)))) ∧
      (session.refusesMethod name = false → isRefused identifier result.2.history = true →
        result.1 = .failed .stopAsOutcome) ∧
      (session.refusesMethod name = false → isRefused identifier result.2.history = false →
        ∃ report, result.1 = .value report ∧ report.identifier = identifier ∧
          report.outcome = lawfulOutcome identifier result.2.history ∧
          result.2.outcome? identifier = some report.outcome ∧
          ∀ callback, onAcknowledge = some callback →
            ∃ ready, result.2.loop.ready = ready ++ [⟨identifier, callback⟩]) := by
  intro identifier result back ordinary
  have running : session.lifecycle.stopped = false := by
    rw [← Bool.not_eq_true]
    exact fun stopped => live (session.lifecycle.stage_eq_terminated.mpr stopped)
  have requested : Requested session name onAcknowledge result :=
    requested (run_moves fuel) params onAcknowledge running
  cases same : result with
  | mk outcome after =>
      rw [same] at requested back ordinary
      cases requested with
      | exhausted cut => exact absurd back (Nat.ne_of_lt cut)
      | aborted raised abort =>
          have handled := ordinary _ raised
          rw [abort] at handled
          cases handled
      | unknown unknown => simp [unknown]
      | refused known refused =>
          refine ⟨by simp [known], fun _ _ => rfl, fun _ accepted => ?_⟩
          exact absurd refused (Bool.eq_false_iff.mp accepted)
      | finished known accepted finished =>
          refine ⟨by simp [known], fun _ refused => ?_, fun _ _ => ?_⟩
          · exact absurd refused (Bool.eq_false_iff.mp accepted)
          · refine ⟨_, rfl, finished.number, finished.lawful, finished.done, ?_⟩
            intro callback wanted
            exact ⟨_, finished.scheduled callback wanted⟩

theorem request_returns_unless_of_key :
    let session := ({} : Session).after [(1, .register "m" fun _ _ => .fail (.host .key []))]
    let result := request (run 2) (.string "m") .null (some fun _ => .done .null) session
    ∃ report, result.1 = .value report ∧
      report.outcome = lawfulOutcome session.identifiers.next result.2.history ∧
      ∃ callback ready, result.2.loop.ready = ready ++ [⟨session.identifiers.next, callback⟩] := by
  intro session result
  have law := request_returns_unless 2 session "m" .null (some fun _ => .done .null)
    (by decide +kernel) (by decide +kernel) (by decide +kernel)
  rcases law.2.2 (by decide +kernel) (by decide +kernel) with
    ⟨report, came, _, lawful, _, scheduled⟩
  rcases scheduled _ rfl with ⟨ready, waiting⟩
  exact ⟨report, came, lawful, _, ready, waiting⟩

/-- A receiver whose failure is the end of a producer: the request fails, although the failure is
an ordinary one, and it is not acknowledged. -/
theorem request_fails_of_stop :
    let session := ({} : Session).after [(1, .register "m" fun _ _ => .fail (.host .stop []))]
    let result := request (run 2) (.string "m") .null (some fun _ => .done .null) session
    session.lifecycle.stage ≠ .terminated ∧ session.registry.hasReceivers "m" = true ∧
      (∀ failure ∈ failures 1 result.2.history, failure.isOrdinary = true) ∧
      result.1 = .failed .stopAsOutcome ∧ result.2.loop.ready = [] := by
  refine ⟨by decide +kernel, by decide +kernel, by decide +kernel, ?_, ?_⟩
  · with_unfolding_all rfl
  · with_unfolding_all rfl

end RpcSession.Session
