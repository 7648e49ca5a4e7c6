import RpcSession.Proofs.Notification.Twins
import RpcSession.Proofs.Numbering
import RpcSession.Proofs.RequestFailure

/-!
# A notification does the work of a request

A notification calls the receivers that a request of the same method would call, and they do the
same. What the two calls come to is another matter: only the request keeps an answer, and only the
notification fails with what went wrong in a receiver.
-/

namespace RpcSession.Session

open Likeness

variable {session before after : Session} {number : Int} {one other : List Event}
variable {name : String} {invoke : Invoke}

/-! ## Names of requests -/

def HandlesTaken (session : Session) : Prop :=
  ∀ name identifier handled, (name, Reference.request identifier handled) ∈ session.names →
    identifier < session.identifiers.next

private theorem HandlesTaken.agreeing (taken : HandlesTaken session)
    (agrees : Agrees session after) :
    HandlesTaken after := by
  intro name identifier handled member
  rw [agrees.names] at member
  exact Int.lt_of_lt_of_le (taken name identifier handled member) agrees.next_le

private theorem HandlesTaken.numbering (taken : HandlesTaken session) (use : IdentifierUse) :
    HandlesTaken (session.numbering use) := fun name identifier handled member =>
  Int.lt_trans (taken name identifier handled member) session.identifiers.next_lt_next_take

theorem isKept_handlesTaken : IsKept HandlesTaken where
  agreeing taken agrees := taken.agreeing agrees
  noting taken _ _ := taken
  numbering taken use _ := taken.numbering use
  naming {session} taken name reference fresh := by
    intro other identifier handled member
    rcases List.mem_cons.mp member with new | old
    · exact fresh identifier handled (Prod.mk.inj new).2.symm
    · exact taken other identifier handled old
  restarting taken _ := taken
  starting taken _ _ _ := taken.numbering .session
  launching taken _ _ _ := taken
  finishing _ _ routed onAcknowledge :=
    finishRequest_kept (fun taken agrees => taken.agreeing agrees) (fun _ taken => taken)
      (fun taken => taken) routed onAcknowledge

theorem HandlesTaken.of_new (new : session.IsNew) : HandlesTaken session := by
  intro name identifier handled member
  simp [new.names] at member

/-! ## The way of a call -/

theorem Twins.of_dispatching (taken : HandlesTaken session) (method : Value) :
    Twins session.identifiers.next (session.dispatching method true).history
      (session.dispatching method false).history (session.dispatching method true)
      (session.dispatching method false) := by
  constructor
  · exact Int.lt_succ session.identifiers.next
  · exact ⟨_, _, rfl⟩
  · intro identifier different
    simp [Session.dispatching, Session.opening, Session.noting, Session.numbering, exchange?,
      different.symm]
  · exact ⟨.awaited, by simp [Session.dispatching, Session.opening, Session.noting,
      Session.numbering, reception?, exchange?], Reception.noConfusion⟩
  · simp [Session.dispatching, Session.opening, Session.noting, Session.numbering, reception?,
      exchange?]
  · exact fun name handled member => Int.lt_irrefl _ (taken name _ handled member)
  · exact ⟨[], [], rfl, rfl, rfl⟩

/-- A call of a method that has receivers goes to them. What goes wrong there is fed back to a
request, which concerns nobody else, and ends a notification. -/
theorem Twins.serving {first second : Session} (related : Twins number one other first second)
    (fuel : Nat) (name : String) (params : Value) :
    let serve : Action Session Unit := do
      let _ ← dispatch (run fuel) name params (.exchange number)
    let asked := Action.recover serve fun failure =>
      deliver (run fuel) (.exchange number) { complaint := some (.failure failure) }
    IsSpoiled number other (serve second).2.history ∨
      Twins number one other (asked first).2 (serve second).2 := by
  intro serve asked
  have upheld := Twins.upheld number one other
  have respects : (twins number one other).Respects serve :=
    (upheld.dispatch (upheld.admits fuel) name params (.exchange number)).bind fun _ => .of_pure ()
  refine (respects.keeps related).imp_right fun ⟨_, served⟩ => ?_
  simp only [asked, Action.recover_apply]
  generalize serve first = result at served
  rcases result with ⟨outcome, after⟩
  cases outcome with
  | failed failure =>
      dsimp only
      split
      · exact Twins.delivering_first _ served _
      · exact served
  | _ => exact served

theorem Twins.route {first second : Session} (related : Twins number one other first second)
    (fuel : Nat) (name : String) (params : Value) :
    let asked := route (run fuel) (.string name) params true number first
    let told := route (run fuel) (.string name) params false number second
    IsSpoiled number other told.2.history ∨ Twins number one other asked.2 told.2 := by
  intro asked told
  have upheld := Twins.upheld number one other
  have admitted := upheld.admits fuel
  by_cases builtIn : name = "initialize"
  · subst builtIn
    have respects : (twins number one other).Respects (do
        let capabilities := (← Action.get).configuration.capabilities
        respond (run fuel) (.exchange number)
          { result := .object [("capabilities", capabilities)] }
        return true : Action Session Bool) := by
      refine .get (fun session => ?_) fun _ _ _ => rfl
      exact (upheld.respond admitted _ _).bind fun _ => .of_pure _
    exact (respects.keeps related).imp_right And.right
  by_cases ending : name = "exit"
  · subst ending
    have respects : (twins number one other).Respects (do
        terminate
        respond (run fuel) (.exchange number) {}
        return true : Action Session Bool) :=
      upheld.terminating.bind fun _ => (upheld.respond admitted _ _).bind fun _ => .of_pure _
    exact (respects.keeps related).imp_right And.right
  have registry : second.registry = first.registry := by
    rcases related.rest with ⟨exchanges, history, same⟩
    rw [same]
  simp only [asked, told, route_of_custom (run fuel) params _ number ⟨builtIn, ending⟩]
  rw [Action.get_bind_apply, Action.get_bind_apply, registry]
  cases has : first.registry.hasReceivers name with
  | false =>
      exact (((upheld.ignoreMethod _).bind fun _ => .of_pure _).keeps related).imp_right And.right
  | true =>
      rw [if_pos rfl, if_pos rfl, Action.bind_pure_state, Action.bind_pure_state]
      simp only [if_true, Bool.false_eq_true, if_false, Action.recover_fail]
      exact related.serving fuel name _

theorem Twins.finishing {first second : Session} (related : Twins number one other first second)
    (handled : Bool) :
    Twins number one other (finishRequest number none handled first).2 second := by
  have concluded : ∃ outcome middle, conclude number first = (.value outcome, middle) ∧
      Twins number one other middle second := by
    unfold conclude
    rw [Action.get_bind_apply]
    cases first.outcome? number with
    | some outcome => exact ⟨outcome, first, rfl, related⟩
    | none => exact ⟨_, _, rfl, related.settling_first (.ok .null)⟩
  rcases concluded with ⟨outcome, middle, same, left⟩
  rw [finishRequest, Action.bind_of_value same, Action.bind_of_value (record_apply _ _)]
  exact left.noting_first (by simp [Event.isWork])

theorem Twins.calls (taken : HandlesTaken session) (live : session.lifecycle.stopped = false)
    (fuel : Nat) (name : String) (params : Value) :
    let one := (session.dispatching (.string name) true).history
    let other := (session.dispatching (.string name) false).history
    let requested := request (run fuel) (.string name) params none session
    let notified := notify (run fuel) (.string name) params session
    IsSpoiled session.identifiers.next other notified.2.history ∨
      Twins session.identifiers.next one other requested.2 notified.2 := by
  intro one other requested notified
  have routed := (Twins.of_dispatching taken (.string name)).route fuel name params
  simp only [requested, notified]
  rw [request_of_live (run fuel) _ params none live, notify_of_live (run fuel) _ params live,
    Action.bind_pure_state, Action.bind_apply]
  refine routed.imp_right fun related => ?_
  generalize Session.route (run fuel) (.string name) params true session.identifiers.next
    (session.dispatching (.string name) true) = asked at related
  rcases asked with ⟨outcome, middle⟩
  cases outcome with
  | value handled => exact related.finishing handled
  | failed failure => exact related
  | exhausted => exact related

/-! ## The work of a call

The work of a call is all that happens since its identifier was taken, but for the log and for
what became of its answer. -/

def workSince (identifier : Int) (history : List Event) : List Event :=
  (eventsSince identifier history).filter (·.isWork identifier)

def Event.sent? : Event → Option Progress
  | .sent progress => some progress
  | _ => none

/-- Whether nobody tried to answer a call with the end of a producer. -/
def acceptsAnswers (identifier : Int) (history : List Event) : Bool :=
  !(eventsSince identifier history).any (·.isRefusal identifier)

/-- Two ends of one session that differ in nothing but what they hold of the answer to one call,
and in the log. -/
structure DifferByAnswer (identifier : Int) (first second : Session) : Prop where
  rest : ∃ exchanges history, second = { first with exchanges, history }
  exchanges : ∀ other, other ≠ identifier → second.exchange? other = first.exchange? other
  work : workSince identifier second.history = workSince identifier first.history
  sent : second.sentProgress = first.sentProgress

/-! ## Calls that were entered -/

structure CallInside (answerable : Bool) (method : Value) (before : Session) (recent : List Event)
    (after : Session) : Prop where
  takes : TakesNext before after (if answerable then .request else .notification)
    (.arrived method answerable true)
  history : after.history = recent ++ (before.dispatching method answerable).history

variable {answerable : Bool} {method : Value} {recent : List Event}

namespace CallInside

theorem eventsSince_eq (inside : CallInside answerable method before recent after) :
    ∃ entry, eventsSince before.identifiers.next after.history =
      .logged entry :: recent.reverse := by
  rcases dispatching_history before method answerable with ⟨entry, entered⟩
  have grown := inside.history
  rw [entered, ← List.singleton_append, ← List.append_assoc] at grown
  exact ⟨entry, (inside.takes.eventsSince_eq grown).trans (by simp)⟩

theorem workSince_eq (inside : CallInside answerable method before recent after) :
    workSince before.identifiers.next after.history =
      (recent.filter (·.isWork before.identifiers.next)).reverse := by
  rcases inside.eventsSince_eq with ⟨entry, same⟩
  rw [workSince, same, List.filter_cons_of_neg (by simp [Event.isWork]), List.filter_reverse]

theorem sentProgress_eq (inside : CallInside answerable method before recent after) :
    after.sentProgress = before.sentProgress ++
      (workSince before.identifiers.next after.history).filterMap Event.sent? := by
  have sent (session : Session) :
      session.sentProgress = session.history.reverse.filterMap Event.sent? := rfl
  have work : (fun event => if event.isWork before.identifiers.next then event.sent? else none) =
      Event.sent? := by
    funext event
    cases event <;> simp [Event.isWork, Event.sent?]
  rcases dispatching_history before method answerable with ⟨entry, entered⟩
  rw [inside.workSince_eq, ← List.filter_reverse, List.filterMap_filter, work, sent, sent,
    inside.history, entered, List.reverse_append, List.filterMap_append]
  simp only [List.reverse_cons, List.append_assoc, List.filterMap_append]
  rfl

theorem unspoiled
    (takes : TakesNext before after .notification (.arrived method false true))
    (accepted : acceptsAnswers before.identifiers.next after.history = true) :
    ¬IsSpoiled before.identifiers.next (before.dispatching method false).history after.history := by
  rintro ⟨recent, grown, refused⟩
  have inside : CallInside false method before recent after := ⟨takes, grown⟩
  rcases inside.eventsSince_eq with ⟨entry, same⟩
  simp [acceptsAnswers, same, refused] at accepted

end CallInside

theorem Twins.differByAnswer {first second : Session}
    (related : Twins session.identifiers.next (session.dispatching method true).history
      (session.dispatching method false).history first second)
    (asked : TakesNext session first .request (.arrived method true true))
    (told : TakesNext session second .notification (.arrived method false true)) :
    DifferByAnswer session.identifiers.next first second := by
  rcases related.worked with ⟨recent, recent', grown, grown', worked⟩
  have inside : CallInside true method session recent first := ⟨asked, grown⟩
  have inside' : CallInside false method session recent' second := ⟨told, grown'⟩
  have work : workSince session.identifiers.next second.history =
      workSince session.identifiers.next first.history := by
    rw [inside.workSince_eq, inside'.workSince_eq, worked]
  refine ⟨related.rest, related.others, work, ?_⟩
  rw [inside.sentProgress_eq, inside'.sentProgress_eq, work]

/-! ## What a notification comes to -/

/-- What the caller of a notification gets of the fan-out to its receivers. -/
def heard : Outcome (Option Failure) → Outcome Unit
  | .value none => .value ()
  | .value (some failure) => .failed failure
  | .failed failure => .failed failure
  | .exhausted => .exhausted

private theorem afterFanOut_heard (invoke : Invoke) (identifier : Int) (session : Session)
    (outcome : Outcome (Option Failure)) :
    afterFanOut invoke false identifier outcome session = (heard outcome, session) := by
  cases outcome with
  | value first => cases first <;> rfl
  | _ => rfl

theorem notify_heard (moving : Invoke.Moves invoke) (params : Value)
    (live : session.lifecycle.stopped = false) (known : session.refusesMethod name = false) :
    let result := notify invoke (.string name) params session
    ∃ shared receivers recent outcome,
      FanOut name shared (.exchange session.identifiers.next) receivers recent outcome ∧
      receiverEvents session.identifiers.next result.2.history = recent ∧
      result.1 = heard outcome := by
  intro result
  have receiving := dispatching_receiving session (.string name) false
  have steps : result = _ := notify_of_live invoke (.string name) params live
  rw [steps]
  by_cases dispatched : (session.dispatching (.string name) false).IsDispatched (.string name)
  · rcases dispatched with ⟨other, equal, custom, has⟩
    cases equal
    rcases route_of_receivers moving receiving params custom has with
      ⟨shared, recent, outcome, middle, trace, received, same⟩
    rw [Action.bind_apply, same, Action.bind_apply, afterFanOut_heard]
    refine ⟨shared, _, recent, outcome, trace, ?_⟩
    have came := received.received
    cases outcome with
    | value first => cases first <;> exact ⟨came, rfl⟩
    | _ => exact ⟨came, rfl⟩
  · have ended := route_aside_result invoke params false session.identifiers.next dispatched
    have refuses : (session.dispatching (.string name) false).refusesMethod name = false := known
    have after := receiving.moves
      (route_aside_moves invoke params false session.identifiers.next dispatched)
    rw [refuses, if_neg (by simp)] at ended
    rcases ended with ⟨handled, came⟩
    refine ⟨.null, [], [], .value none, .finished, ?_, ?_⟩
    · rw [Action.bind_pure_state]
      exact after.received
    · rw [Action.bind_of_value (Prod.ext came rfl)]
      rfl

private theorem heard_failed {shared : Value} {receivers : List (Int × Receiver)}
    {recent : List Event}
    {outcome : Outcome (Option Failure)} {responder : Responder} {failure : Failure}
    (trace : FanOut name shared responder receivers recent outcome)
    (failed : heard outcome = .failed failure) : failure ∈ failuresOf recent := by
  cases outcome with
  | exhausted => cases failed
  | failed other =>
      cases failed
      exact (trace.of_failed rfl).1
  | value first =>
      cases first with
      | none => cases failed
      | some other =>
          cases failed
          exact List.mem_of_mem_head? (Option.mem_def.mpr (trace.of_value rfl).2.2.1)

private theorem heard_of_finished {shared : Value} {receivers : List (Int × Receiver)}
    {recent : List Event} {outcome : Outcome (Option Failure)} {responder : Responder}
    (trace : FanOut name shared responder receivers recent outcome)
    (back : (recent.filterMap Event.return?).length = (recent.filterMap Event.call?).length)
    (ordinary : ∀ failure ∈ failuresOf recent, failure.isOrdinary = true) :
    heard outcome = match (failuresOf recent).head? with
      | some failure => .failed failure
      | none => .value () := by
  cases outcome with
  | exhausted => exact absurd back (Nat.ne_of_lt (trace.of_exhausted rfl))
  | failed failure =>
      rcases trace.of_failed rfl with ⟨member, abort⟩
      rw [ordinary failure member] at abort
      cases abort
  | value first =>
      rw [(trace.of_value rfl).2.2.1]
      cases first <;> rfl

/-! ## Methods that are refused -/

private theorem route_refused (invoke : Invoke) (session : Session) (params : Value)
    (answerable : Bool) (identifier : Int) (unknown : session.refusesMethod name = true) :
    (route invoke (.string name) params answerable identifier session).1 =
      .failed (.peer (.unknownMethod (.string name))) := by
  have aside : ¬session.IsDispatched (.string name) := by
    rintro ⟨other, same, _, has⟩
    cases same
    simp [refusesMethod, has] at unknown
  have result := route_aside_result invoke params answerable identifier aside
  rw [if_pos unknown] at result
  exact result

private theorem accept_refused (invoke : Invoke) (params : Value) (answerable : Bool)
    (live : session.lifecycle.stopped = false) (unknown : session.refusesMethod name = true) :
    (accept invoke (.string name) params answerable session).1 =
      .failed (.peer (.unknownMethod (.string name))) := by
  rw [accept_of_live invoke (.string name) params answerable live]
  exact Action.bind_of_failed (route_refused invoke _ params answerable _ unknown)

/-! ## What a call fails with -/

private theorem request_failed (moving : Invoke.Moves invoke) {failure : Failure}
    (live : session.lifecycle.stopped = false) (known : session.refusesMethod name = false)
    (failed : (request invoke (.string name) params none session).1 = .failed failure) :
    let after := (request invoke (.string name) params none session).2
    failure ∈ failures session.identifiers.next after.history ∨
      failure = .stopAsOutcome ∧ isRefused session.identifiers.next after.history = true := by
  have requested : Requested session name none
      (request invoke (.string name) params none session) := requested moving params none live
  generalize request invoke (.string name) params none session = result at requested failed
  cases requested with
  | aborted raised =>
      cases failed
      exact .inl raised
  | unknown unknown =>
      rw [known] at unknown
      cases unknown
  | refused _ refused =>
      cases failed
      exact .inr ⟨rfl, refused⟩
  | _ => cases failed

private theorem notify_failed (moving : Invoke.Moves invoke) {failure : Failure}
    (live : session.lifecycle.stopped = false) (known : session.refusesMethod name = false)
    (failed : (notify invoke (.string name) params session).1 = .failed failure) :
    failure ∈ failures session.identifiers.next
      (notify invoke (.string name) params session).2.history := by
  rcases notify_heard moving params live known with
    ⟨shared, receivers, recent, outcome, trace, received, came⟩
  rw [failures, returns, received]
  exact heard_failed trace (came.symm.trans failed)

/-! ## What is done afterwards -/

theorem Twins.calls_later (taken : HandlesTaken session) (live : session.lifecycle.stopped = false)
    (fuel deep : Nat) (name : String) (params : Value) (program : Program) :
    let requested := request (run fuel) (.string name) params none session
    let notified := notify (run fuel) (.string name) params session
    let asked := run deep program requested.2
    let told := run deep program notified.2
    acceptsAnswers session.identifiers.next told.2.history = true →
      told.1 = asked.1 ∧ DifferByAnswer session.identifiers.next asked.2 told.2 := by
  intro requested notified asked told answered
  have moving := run_moves fuel
  have goesOn (session : Session) : Changes session.identifiers.next session
      (run deep program session).2 := run_moves deep program _ session (Int.le_refl _)
  have asking := (request_takesNext moving (.string name) params none live).changes
    (request_changes moving (.string name) params none live).next_le (goesOn requested.2)
  have telling := (notify_takesNext moving (.string name) params live).changes
    (notify_changes moving (.string name) params live).next_le (goesOn notified.2)
  have unspoiled := CallInside.unspoiled telling answered
  let one := (session.dispatching (.string name) true).history
  let other := (session.dispatching (.string name) false).history
  have respects : (twins session.identifiers.next one other).Respects (run deep program) :=
    (Twins.upheld _ one other).admits deep program
  rcases Twins.calls taken live fuel name params with spoiled | related
  · have before : (twins session.identifiers.next one other).spoiled notified.2.history := spoiled
    exact absurd (spoiled_of_suffix before (respects.grows _)) unspoiled
  · rcases respects.keeps related with spoiled | ⟨same, after⟩
    · exact absurd spoiled unspoiled
    · exact ⟨same.symm, Twins.differByAnswer after asking telling⟩

/-! ## The same work -/

/-- How a request and a notification of the same method go about a session. Either both are
rejected, for the same reason, or neither is; what else they fail with is of the receivers. As long
as nobody answers with the end of a producer, what they do is the same, and so is whatever is done
afterwards. -/
structure SameWork (name : String) (session : Session) (requested : Outcome RequestReport × Session)
    (notified : Outcome Unit × Session) : Prop where
  terminated (stopped : session.lifecycle.stopped = true) :
    let failure := Failure.peer (.sessionTerminated
      (.string ("Session terminated; " ++ (Value.string name).display ++ " rejected")))
    requested = (.failed failure, session.noting (.arrived (.string name) true false)) ∧
      notified = (.failed failure, session.noting (.arrived (.string name) false false))
  unknown (live : session.lifecycle.stopped = false) (unknown : session.refusesMethod name = true) :
    requested.1 = .failed (.peer (.unknownMethod (.string name))) ∧
      notified.1 = .failed (.peer (.unknownMethod (.string name)))
  accepted (live : session.lifecycle.stopped = false) (known : session.refusesMethod name = false)
    (failure : Failure) :
    (requested.1 = .failed failure →
      failure ∈ failures session.identifiers.next requested.2.history ∨
        failure = .stopAsOutcome ∧
          isRefused session.identifiers.next requested.2.history = true) ∧
    (notified.1 = .failed failure →
      failure ∈ failures session.identifiers.next notified.2.history)
  raised (live : session.lifecycle.stopped = false) (known : session.refusesMethod name = false)
    (back : (returns session.identifiers.next notified.2.history).length =
      (calls session.identifiers.next notified.2.history).length)
    (ordinary : ∀ failure ∈ failures session.identifiers.next notified.2.history,
      failure.isOrdinary = true) :
    notified.1 = match (failures session.identifiers.next notified.2.history).head? with
      | some failure => .failed failure
      | none => .value ()
  worked (live : session.lifecycle.stopped = false)
    (accepted : acceptsAnswers session.identifiers.next notified.2.history = true) :
    DifferByAnswer session.identifiers.next requested.2 notified.2
  later (live : session.lifecycle.stopped = false) (fuel : Nat) (program : Program) :
    let asked := run fuel program requested.2
    let told := run fuel program notified.2
    acceptsAnswers session.identifiers.next told.2.history = true →
      told.1 = asked.1 ∧ DifferByAnswer session.identifiers.next asked.2 told.2

private theorem sameWork (taken : HandlesTaken session) (fuel : Nat) (name : String)
    (params : Value) :
    SameWork name session (request (run fuel) (.string name) params none session)
      (notify (run fuel) (.string name) params session) := by
  have moving := run_moves fuel
  constructor
  · intro stopped failure
    constructor
    · rw [request_of_stopped (run fuel) _ params none stopped]
    · rw [notify, Action.bind_apply, accept_of_stopped (run fuel) _ params false stopped]
  · intro live unknown
    exact ⟨Action.bind_of_failed (accept_refused (run fuel) params true live unknown),
      Action.bind_of_failed (accept_refused (run fuel) params false live unknown)⟩
  · exact fun live known failure =>
      ⟨request_failed moving live known, notify_failed moving live known⟩
  · intro live known back ordinary
    rcases notify_heard moving params live known with
      ⟨shared, receivers, recent, outcome, trace, received, came⟩
    simp only [failures, returns, calls, received] at back ordinary ⊢
    rw [came]
    exact heard_of_finished trace back ordinary
  · intro live answered
    have told := notify_takesNext moving (.string name) params live
    refine Twins.differByAnswer ?_ (request_takesNext moving (.string name) params none live) told
    have unspoiled := CallInside.unspoiled told answered
    exact (Twins.calls taken live fuel name params).resolve_left unspoiled
  · exact fun live deep program => Twins.calls_later taken live fuel deep name params program

/-- A notification does to a session, at whatever moment of its life, what a request of the same
method would do, but for the answer. -/
theorem notify_works_as_request {start : Session} (new : start.IsNew)
    (operations : List (Nat × Operation Program)) :
    HandlesTaken (start.after operations) ∧ IsKept HandlesTaken ∧
      ∀ session, HandlesTaken session → ∀ fuel name params,
        SameWork name session (request (run fuel) (.string name) params none session)
          (notify (run fuel) (.string name) params session) :=
  ⟨isKept_handlesTaken.after (.of_new new) operations, isKept_handlesTaken,
    fun _ taken fuel name params => sameWork taken fuel name params⟩

/-- One receiver fails and the other one answers. The request has the answer, and the notification
fails all the same. -/
theorem notify_works_as_request_of_late_answer :
    let session := ({} : Session).after
      [(1, .register "m" fun _ _ => .fail (.host .key [])),
        (1, .register "m" fun _ _ => .done (.int 7))]
    let requested := request (run 2) (.string "m") .null none session
    let notified := notify (run 2) (.string "m") .null session
    requested.1 = .value ⟨1, true, .ok (.int 7)⟩ ∧ notified.1 = .failed (.host .key []) ∧
      DifferByAnswer 1 requested.2 notified.2 := by
  intro session requested notified
  have law := notify_works_as_request isNew_default
    [(1, .register "m" fun _ _ => .fail (.host .key [])),
      (1, .register "m" fun _ _ => .done (.int 7))]
  have same : SameWork "m" session requested notified := law.2.2 session law.1 2 "m" .null
  have live : session.lifecycle.stopped = false := by decide +kernel
  have raised := same.raised live (by decide +kernel) (by decide +kernel) (by decide +kernel)
  have worked := same.worked live (by decide +kernel)
  exact ⟨by with_unfolding_all rfl, raised.trans (by with_unfolding_all rfl), worked⟩

end RpcSession.Session
