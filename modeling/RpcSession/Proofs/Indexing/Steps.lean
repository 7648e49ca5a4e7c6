import RpcSession.Proofs.Indexing.OnCourse
import RpcSession.Proofs.ProgressStream

/-!
# Steps beside walks

What each kind of change touches of the walks of a session: changes of a timer the walk of that
timer only, changes of a progress the walk under its token only.
-/

namespace RpcSession.Session

variable {session middle after : Session} {index : ℕ} {token : ℤ} {own : ℕ → ℤ → Prop}

private theorem map_callback_modify {change : Timer → Timer}
    (kept : ∀ timer, (change timer).callback = timer.callback) (timers : List Timer) (index : ℕ) :
    (timers.modify index change).map (·.callback) = timers.map (·.callback) := by
  apply List.ext_getElem?
  intro other
  rw [List.getElem?_map, List.getElem?_modify, List.getElem?_map]
  cases timers[other]? with
  | none => rfl
  | some timer =>
      change some _ = some _
      split
      · exact congrArg some (kept timer)
      · rfl

/-! ## Marks of single events -/

theorem marks_noting_of_none {event : Event} (other : event.mark? index token = none) :
    (session.noting event).marks index token = session.marks index token := by
  have history : (session.noting event).history = [event] ++ session.history := rfl
  rw [marks_append history]
  simp [other]

theorem marks_noting {event : Event} {mark : Mark} (marked : event.mark? index token = some mark) :
    (session.noting event).marks index token = session.marks index token ++ [mark] := by
  have history : (session.noting event).history = [event] ++ session.history := rfl
  rw [marks_append history]
  simp [marked]

theorem marks_announcing (session : Session) (entry : LogEntry) (progress : Progress)
    (index : ℕ) :
    (session.announcing entry progress).marks index progress.token =
      session.marks index progress.token ++ [.told progress] := by
  have marked : (Event.sent progress).mark? index progress.token = some (.told progress) :=
    if_pos rfl
  rw [announcing, marks_noting marked, marks_noting_of_none rfl]

theorem marks_beginning (session : Session) (percentage : Value) (progress : Progress)
    (index : ℕ) (token : ℤ) :
    (session.beginning percentage progress).marks index token = session.marks index token := by
  have history : (session.beginning percentage progress).history =
      [.begun progress.token progress.title, .numbered .progress session.identifiers.next,
        .progressAsked percentage true] ++ session.history := rfl
  exact marks_of_unmarked history (by simp [Event.isMarking]) _ _

/-! ## What is spared -/

namespace Spares

theorem trans (first : Spares own session middle) (second : Spares own middle after)
    (names : after.names = middle.names) : Spares own session after where
  outbound := second.outbound.trans first.outbound
  stopped := second.stopped.trans first.stopped
  next := Int.le_trans first.next second.next
  names entry member := by
    rw [names] at member
    exact (first.names entry member).imp_right fun allowed =>
      allowed.later second.next second.callback?
  callbacks := second.callbacks.trans first.callbacks
  timer index token other :=
    (second.timer index token other).trans (first.timer index token other)
  ticks index token other :=
    (second.ticks index token other).trans (first.ticks index token other)
  held index token other taken :=
    (second.held index token other (Int.lt_of_lt_of_le taken first.next)).trans
      (first.held index token other taken)
  marks index token other :=
    (second.marks index token other).trans (first.marks index token other)

theorem noting (session : Session) {event : Event}
    (other : ∀ index token, ¬own index token → event.mark? index token = none) :
    Spares own session (session.noting event) where
  outbound := rfl
  stopped := rfl
  next := Int.le_refl _
  names _ := .inl
  callbacks := rfl
  timer _ _ _ := rfl
  ticks _ _ _ := rfl
  held _ _ _ _ := rfl
  marks index token foreign := marks_noting_of_none (other index token foreign)

/-! ## Timers -/

theorem of_timer {change : Timer → Timer} {loop : Loop}
    (kept : ∀ timer, (change timer).callback = timer.callback)
    (ticks : ∀ other, other ≠ index →
      loop.scheduled.filter (·.timer == other) = session.ticksOf other) :
    Spares (ofTimer index) session
      { session with timers := session.timers.modify index change, loop } where
  outbound := rfl
  stopped := rfl
  next := Int.le_refl _
  names _ := .inl
  callbacks := map_callback_modify kept session.timers index
  timer _ _ foreign := List.getElem?_modify_ne _ _ (Ne.symm foreign)
  ticks other _ foreign := ticks other foreign
  held _ _ _ _ := rfl
  marks _ _ _ := rfl

theorem scheduling (session : Session) (index : ℕ) (seconds : Float) :
    Spares (ofTimer index) session (session.scheduling index seconds) := by
  refine .of_timer ?_ fun other foreign => ?_
  · exact fun _ => rfl
  · simp [ticksOf, Ne.symm foreign]

theorem filter_order (clocked : Clocked session) {tick : ScheduledTick}
    (due : tick ∈ session.loop.scheduled) {other : ℕ} (foreign : other ≠ tick.timer) :
    (session.loop.scheduled.filter (·.order != tick.order)).filter (·.timer == other) =
      session.ticksOf other := by
  rw [List.filter_filter]
  refine List.filter_congr fun held member => ?_
  by_cases same : held.timer = other
  · have distinct : held.order ≠ tick.order := fun equal => foreign (by
      rw [← same, clocked.eq_of_order member due equal])
    simp [same, distinct]
  · simp [same]

theorem stopping (clocked : Clocked session) {timer : Timer}
    (found : session.timer? index = some timer) :
    Spares (ofTimer index) session (session.stopping index timer) := by
  have stopped (scheduled : List ScheduledTick)
      (ticks : ∀ other, other ≠ index →
        scheduled.filter (·.timer == other) = session.ticksOf other) :
      Spares (ofTimer index) session ({ session with
        loop := { session.loop with scheduled }
        timers := session.timers.modify index fun timer =>
          { timer with stopped := true, pending := none } }.noting (.timerStopped index)) := by
    refine .trans (.of_timer ?_ ticks) (.noting _ fun _ _ _ => rfl) rfl
    exact fun _ => rfl
  rw [Session.stopping]
  cases pending : timer.pending with
  | none => exact stopped _ fun _ _ => rfl
  | some order =>
      rcases clocked.known index timer order found pending with ⟨tick, due, rfl, rfl⟩
      exact stopped _ fun _ foreign => filter_order clocked due foreign

theorem firing (clocked : Clocked session) {tick : ScheduledTick}
    (due : tick ∈ session.loop.scheduled) :
    Spares (ofTimer tick.timer) session (session.firing tick) := by
  have cleared : Spares (ofTimer tick.timer) session (session.clearing tick) := by
    refine .of_timer ?_ fun other foreign => filter_order clocked due foreign
    exact fun _ => rfl
  rcases session.firing_cases tick with ⟨same, _⟩ | ⟨same, _⟩ <;> rw [same]
  · exact cleared
  · exact cleared.trans (.noting _ fun _ _ foreign => if_neg (Ne.symm foreign)) rfl

theorem returning (clocked : Clocked session) {timer : Timer}
    (found : session.timer? index = some timer) (outcome : Except Failure Unit) :
    Spares (ofTimer index) session (session.returning index timer outcome) := by
  have noted : Spares (ofTimer index) session
      (session.noting (.tickReturned index timer.isRunning outcome)) :=
    .noting _ fun _ _ foreign => if_neg (Ne.symm foreign)
  rcases session.returning_cases index timer outcome with same | same | ⟨entry, same⟩ <;> rw [same]
  · exact noted
  · exact noted.trans (.scheduling _ _ _) rfl
  · have logged : Spares (ofTimer index) session
        ((session.noting (.tickReturned index timer.isRunning outcome)).noting (.logged entry)) :=
      noted.trans (.noting _ fun _ _ _ => rfl) rfl
    exact logged.trans (.stopping ((clocked.noting _).noting _) found) rfl

/-! ## Progresses -/

theorem updating (session : Session) (progress : Progress) :
    Spares (ofToken progress.token) session (session.updating progress) where
  outbound := rfl
  stopped := rfl
  next := Int.le_refl _
  names _ := .inl
  callbacks := rfl
  timer _ _ _ := rfl
  ticks _ _ _ := rfl
  held _ token foreign _ := by
    rw [progress?_updating]
    cases session.progress? token with
    | none => rfl
    | some held => exact congrArg some (if_neg foreign)
  marks _ _ _ := rfl

theorem announcing (session : Session) (entry : LogEntry) (progress : Progress) :
    Spares (ofToken progress.token) session (session.announcing entry progress) := by
  have logged : Spares (ofToken progress.token) session (session.noting (.logged entry)) :=
    .noting _ fun _ _ _ => rfl
  exact logged.trans (.noting _ fun _ _ foreign => if_neg (Ne.symm foreign)) rfl

theorem beginning (session : Session) (percentage : Value) (progress : Progress) :
    Spares (ofToken progress.token) session (session.beginning percentage progress) where
  outbound := rfl
  stopped := rfl
  next := Int.le_of_lt (Int.lt_succ _)
  names _ := .inl
  callbacks := rfl
  timer _ _ _ := rfl
  ticks _ _ _ := rfl
  held _ other foreign _ := by
    have begun : (session.beginning percentage progress).progresses =
        progress :: session.progresses := rfl
    rw [progress?_of_begun begun, if_neg (Ne.symm foreign)]
  marks index other _ := marks_beginning session percentage progress index other

end Spares

end RpcSession.Session
