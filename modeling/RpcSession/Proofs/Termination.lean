import RpcSession.Proofs.Dispatch
import RpcSession.Proofs.RequestFailure

/-!
# Termination

A terminated session stays so. It tells the peer nothing, refuses every call and takes no
identifiers any more, except for those that the host asks for. Only what was under way goes on.
-/

namespace RpcSession.Session

variable {since : Int} {session after : Session} {invoke : Invoke}

def Event.isInert : Event → Bool
  | .sent _ | .begun _ _ | .terminated => false
  | .numbered use _ => use == .host
  | .arrived _ _ live | .progressAsked _ live => !live
  | _ => true

private theorem Event.inert_of_fits {event : Event} (fits : event.Fits since session)
    (stopped : session.lifecycle.stopped = true) : event.isInert = true := by
  cases event with
  | sent | begun | terminated =>
      have live : session.lifecycle.stopped = false := fits
      rw [stopped] at live
      cases live
  | arrived method answerable live => simp_all [Fits, isInert]
  | progressAsked percentage live => simp_all [Fits, isInert]
  | numbered use identifier =>
      have byHost := fits.2
      rw [stopped] at byHost
      simpa [isInert] using byHost
  | _ => rfl

private theorem countP_isNumbered_of_inert {events : List Event}
    (inert : ∀ event ∈ events, event.isInert = true) :
    events.countP Event.isNumbered = events.countP Event.isNumberedByHost := by
  apply List.countP_congr
  intro event member
  have same := inert event member
  cases event with
  | numbered use identifier =>
      have byHost : use = .host := by simpa [Event.isInert] using same
      rw [byHost]
      rfl
  | _ => rfl

structure Orderly (first : Int) (session : Session) : Prop where
  ended : session.lifecycle.stopped = true ↔ .terminated ∈ session.history
  counted : session.identifiers.next = first + session.history.countP Event.isNumbered
  inert : ∀ later earlier, session.history = later ++ .terminated :: earlier →
    ∀ event ∈ later, event.isInert = true

namespace Orderly

variable {first : Int}

theorem of_new (new : session.IsNew) : Orderly session.identifiers.next session := by
  constructor
  · simp [new.lifecycle, new.history]
  · simp [new.history]
  · intro later earlier history
    simp [new.history] at history

theorem change (orderly : Orderly first session) (change : Change since session after) :
    Orderly first after := by
  rcases change.records with ⟨recent, records⟩
  constructor
  · rw [records.stopped, records.history, List.mem_append, orderly.ended, or_comm]
  · rw [records.counted, records.history, List.countP_append, orderly.counted]
    omega
  · intro later earlier history event member
    -- An end that this change itself records is recorded alone, so nothing of it comes later.
    rcases records.lone rfl history with ⟨between, latest, older⟩ | ⟨none, _, _⟩
    · have stopped := orderly.ended.mpr (by simp [older])
      rw [latest] at member
      rcases List.mem_append.mp member with new | old
      · exact Event.inert_of_fits (records.fits event new) stopped
      · exact orderly.inert between earlier older event old
    · simp [none] at member

end Orderly

/-! ## The ways to end

A change that leaves a live session terminated has recorded that. -/

structure EndedSince (before after : Session) : Prop where
  stage : after.lifecycle.stage = .terminated
  recorded : ∃ recent, after.history = recent ++ before.history ∧ .terminated ∈ recent

/-- What ends a live session: its host, and every call to exit. -/
structure Ends (invoke : Invoke) (session : Session) : Prop where
  terminate : EndedSince session (Session.terminate session).2
  request : ∀ params onAcknowledge,
    EndedSince session (Session.request invoke (.string "exit") params onAcknowledge session).2
  notify : ∀ params,
    EndedSince session (Session.notify invoke (.string "exit") params session).2

theorem stopped_terminate (session : Session) :
    (terminate session).2.lifecycle.stopped = true := by
  rw [terminate, Action.get_bind_apply]
  split
  · assumption
  · rfl

theorem Changes.stopped (changes : Changes since session after)
    (stopped : session.lifecycle.stopped = true) : after.lifecycle.stopped = true := by
  apply changes.preserves stopped
  intro before after stopped change
  rcases change.records with ⟨recent, records⟩
  exact records.stopped.mpr (.inl stopped)

private theorem Changes.endedSince (changes : Changes since session after)
    (live : session.lifecycle.stopped = false) (stopped : after.lifecycle.stopped = true) :
    EndedSince session after := by
  refine ⟨after.lifecycle.stage_eq_terminated.mpr stopped, ?_⟩
  have ended : ∃ recent, after.history = recent ++ session.history ∧
      (after.lifecycle.stopped = true → .terminated ∈ recent) := by
    clear stopped
    induction changes with
    | refl => exact ⟨[], rfl, by simp [live]⟩
    | tail before change induction =>
        rcases induction with ⟨earlier, grown, ended⟩
        rcases change.records with ⟨recent, records⟩
        refine ⟨recent ++ earlier, by rw [records.history, grown, List.append_assoc], ?_⟩
        intro stopped
        rcases records.stopped.mp stopped with before | now
        · exact List.mem_append_right _ (ended before)
        · exact List.mem_append_left _ now
  rcases ended with ⟨recent, grown, ended⟩
  exact ⟨recent, grown, ended stopped⟩

theorem route_exit_stopped (invoke : Invoke) (params : Value) (answerable : Bool)
    (identifier : Int) (session : Session) :
    (route invoke (.string "exit") params answerable identifier session).2.lifecycle.stopped =
      true := by
  let middle := (terminate session).2
  have terminated : terminate session = (.value (), middle) :=
    Prod.ext (terminate_result session) rfl
  have answer : route invoke (.string "exit") params answerable identifier session =
      (do terminate; respond invoke (.exchange identifier) {}; return true : Action Session Bool)
        session := rfl
  have responded : Moves middle.identifiers.next middle
      (respond invoke (.exchange identifier) {}) := respond_exchange_moves invoke identifier {}
  rw [answer, Action.bind_of_value terminated, Action.bind_pure_state]
  exact (responded (Int.le_refl _)).stopped (stopped_terminate session)

private theorem request_exit_stopped (moving : Invoke.Moves invoke) (params : Value)
    (onAcknowledge : Option (Int → Program)) (live : session.lifecycle.stopped = false) :
    (request invoke (.string "exit") params onAcknowledge session).2.lifecycle.stopped = true := by
  let identifier := session.identifiers.next
  let middle := (route invoke (.string "exit") params true identifier
    (session.dispatching (.string "exit") true)).2
  have routed : route invoke (.string "exit") params true identifier
      (session.dispatching (.string "exit") true) = (.value true, middle) :=
    Prod.ext (route_of_exit invoke params true identifier) rfl
  have ended : middle.lifecycle.stopped = true := route_exit_stopped ..
  have ready : Routed identifier middle :=
    route_routed moving (dispatching_receiving session (.string "exit") true) routed
  have finished := finishRequest_moves ready (Int.le_refl identifier) onAcknowledge true
  rw [request_of_live invoke _ params onAcknowledge live, Action.bind_of_value routed]
  exact (finished (Int.le_of_lt ready.taken)).stopped ended

private theorem ends_of_live (moving : Invoke.Moves invoke)
    (live : session.lifecycle.stopped = false) :
    Ends invoke session := by
  constructor
  · exact (terminate_moves (Int.le_refl _)).endedSince live (stopped_terminate session)
  · intro params onAcknowledge
    exact (request_moves moving _ params onAcknowledge (Int.le_refl _)).endedSince live
      (request_exit_stopped moving params onAcknowledge live)
  · intro params
    have stopped : (notify invoke (.string "exit") params session).2.lifecycle.stopped = true := by
      rw [notify_of_live invoke _ params live, Action.bind_pure_state]
      exact route_exit_stopped ..
    exact (notify_moves moving _ params (Int.le_refl _)).endedSince live stopped

/-! ## Calls of a terminated session -/

/-- What a terminated session does with new calls: they fail, and at most leave a note. -/
structure Refuses (invoke : Invoke) (session : Session) : Prop where
  request : ∀ method params onAcknowledge, ∃ message,
    Session.request invoke method params onAcknowledge session =
      (.failed (.peer (.sessionTerminated message)), session.noting (.arrived method true false))
  notify : ∀ method params, ∃ message,
    Session.notify invoke method params session =
      (.failed (.peer (.sessionTerminated message)), session.noting (.arrived method false false))
  begin : ∀ title message percentage, ∃ failure,
    Session.begin invoke title message percentage session =
      (.failed failure, session.noting (.progressAsked percentage false))
  start : ∃ message,
    Session.start invoke session = (.failed (.peer (.sessionTerminated message)), session)

theorem refuses_of_stopped (invoke : Invoke) (stopped : session.lifecycle.stopped = true) :
    Refuses invoke session := by
  constructor
  · intro method params onAcknowledge
    rw [request, Action.bind_apply, accept_of_stopped invoke method params true stopped]
    exact ⟨_, rfl⟩
  · intro method params
    rw [notify, Action.bind_apply, accept_of_stopped invoke method params false stopped]
    exact ⟨_, rfl⟩
  · intro title message percentage
    rcases begin_of_unfit invoke title message percentage (.inl stopped) with ⟨failure, declined⟩
    rw [stopped] at declined
    exact ⟨failure, declined⟩
  · rw [Session.start, Action.get_bind_apply, if_pos stopped]
    exact ⟨_, rfl⟩

/-! ## Fan-outs under way

A fan-out that comes to its end has called all its receivers, also those that were left when the
session was terminated. -/

def calledIn (events : List Event) : List Int :=
  events.reverse.filterMap Event.call?

theorem calledIn_append (later earlier : List Event) :
    calledIn (later ++ earlier) = calledIn earlier ++ calledIn later := by
  simp [calledIn]

variable {method : String} {params : Value} {responder : Responder}

private theorem Served.history (moving : Invoke.Moves invoke) {entry : Int × Receiver}
    {outcome : Outcome Unit}
    (served : Served invoke method params responder entry session outcome after) :
    ∃ recent, after.history =
      recent ++ .called entry.1 method params responder :: session.history := by
  -- The fan-out may serve an exchange that was opened long before, so `since` is chosen for it.
  rcases exists_isSince responder session.identifiers.next with ⟨since, entered, own⟩
  exact (served.changes moving own entered).history_suffix

private theorem Serving.calls (moving : Invoke.Moves invoke) {receivers : List (Int × Receiver)}
    {results : List (Option Failure)}
    (serving : Serving invoke method params responder receivers session results after) :
    ∃ recent, after.history = recent ++ session.history ∧
      (receivers.map (·.1)).Sublist (calledIn recent) := by
  induction serving with
  | none => exact ⟨[], rfl, List.Sublist.refl _⟩
  | @succeeded entry receivers before middle after results served rest induction =>
      rcases served.history moving with ⟨between, history⟩
      rcases induction with ⟨later, grown, sublist⟩
      refine ⟨later ++ (between ++ [.called entry.1 method params responder]), ?_, ?_⟩
      · rw [grown, history]
        simp
      · rw [calledIn_append, calledIn_append, List.map_cons]
        exact .cons_cons entry.1 (.trans sublist (List.sublist_append_right _ _))
  | @failed entry receivers before middle after results failure logged ordinary served rest
      induction =>
      rcases served.history moving with ⟨between, history⟩
      rcases induction with ⟨later, grown, sublist⟩
      refine ⟨later ++ (.logged logged :: between ++ [.called entry.1 method params responder]),
        ?_, ?_⟩
      · rw [grown, noting, history]
        simp
      · rw [calledIn_append, calledIn_append, List.map_cons]
        exact .cons_cons entry.1 (.trans sublist (List.sublist_append_right _ _))

private theorem fanOut_calls (moving : Invoke.Moves invoke) {receivers : List (Int × Receiver)}
    {first : Option Failure}
    (came : fanOut invoke method params responder receivers session = (.value first, after)) :
    ∃ recent, after.history = recent ++ session.history ∧
      (receivers.map (·.1)).Sublist (calledIn recent) := by
  have fannedOut := fanOut_fannedOut invoke method params responder receivers session
  rw [came] at fannedOut
  cases fannedOut with
  | finished serving => exact serving.calls moving

/-! ## The law of termination -/

/-- From the moment that a session is terminated it stays terminated, only inert events happen to
it, and its counter counts only what the host takes from it. New calls fail at once, while a
fan-out under way still calls all its receivers. The host ends a live session when it terminates
it, and so does every call to exit. -/
theorem termination_permanent_inert {start : Session} (new : start.IsNew)
    (operations : List (Nat × Operation Program)) :
    let session := start.after operations
    (session.lifecycle.stage = .terminated ↔ .terminated ∈ session.history) ∧
    (∀ later earlier, session.history = later ++ .terminated :: earlier →
      session.lifecycle.stage = .terminated ∧
      (∀ event ∈ later, event.isInert = true) ∧
      session.identifiers.next =
        start.identifiers.next + earlier.countP Event.isNumbered +
          later.countP Event.isNumberedByHost) ∧
    (∀ (invoke : Invoke) (ended : Session), ended.lifecycle.stage = .terminated →
      Refuses invoke ended) ∧
    (∀ fuel method params responder receivers before first after,
      fanOut (run fuel) method params responder receivers before = (.value first, after) →
        ∃ recent, after.history = recent ++ before.history ∧
          (receivers.map (·.1)).Sublist (calledIn recent)) ∧
    (∀ (fuel : Nat) (live : Session), live.lifecycle.stage ≠ .terminated →
      Ends (run fuel) live) := by
  have orderly := after_preserves (Orderly.of_new new)
    (fun _ _ orderly change => orderly.change change) operations
  refine ⟨?_, ?_, ?_, ?_, ?_⟩
  · rw [Lifecycle.stage_eq_terminated]
    exact orderly.ended
  · intro later earlier history
    have inert := orderly.inert later earlier history
    refine ⟨?_, inert, ?_⟩
    · rw [Lifecycle.stage_eq_terminated, orderly.ended, history]
      simp
    · have counted := orderly.counted
      rw [history, List.countP_append, List.countP_cons, countP_isNumbered_of_inert inert]
        at counted
      simp only [Event.isNumbered, Bool.false_eq_true, ↓reduceIte] at counted
      omega
  · intro invoke ended terminated
    exact refuses_of_stopped invoke (ended.lifecycle.stage_eq_terminated.mp terminated)
  · intro fuel method params responder receivers before first after came
    exact fanOut_calls (run_moves fuel) came
  · intro fuel live going
    rw [ne_eq, Lifecycle.stage_eq_terminated, Bool.not_eq_true] at going
    exact ends_of_live (run_moves fuel) going

theorem termination_permanent_inert_of_exit :
    let session := ({} : Session).after
      [(3, .request (.string "exit") .null none none), (3, .notify (.string "late") .null),
        (3, .nextIdentifier)]
    session.identifiers.next = 3 ∧
      ∃ later earlier, session.history = later ++ .terminated :: earlier ∧
        ∀ event ∈ later, event.isInert = true := by
  intro session
  have law := termination_permanent_inert isNew_default
    [(3, .request (.string "exit") .null none none), (3, .notify (.string "late") .null),
      (3, .nextIdentifier)]
  have ended : Event.terminated ∈ session.history := law.1.mp (by decide +kernel)
  rcases List.append_of_mem ended with ⟨later, earlier, history⟩
  exact ⟨by decide +kernel, later, earlier, history, (law.2.1 later earlier history).2.1⟩

end RpcSession.Session
