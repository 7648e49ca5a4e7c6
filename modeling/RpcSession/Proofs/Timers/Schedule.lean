import Mathlib.Data.List.Nodup
import RpcSession.Proofs.Movement.Run

/-!
# Timers and the schedule

Every scheduled tick has an order of its own, and the tick that a timer knows of is on the
schedule. A tick that is on the schedule need not be known to its timer.
-/

namespace RpcSession.Session

variable {since : Int} {session after : Session}

/-! ## Timers after single changes -/

theorem timer?_scheduling (session : Session) (index : Nat) (seconds : Float) (other : Nat) :
    (session.scheduling index seconds).timer? other = (session.timer? other).map fun timer =>
      if index = other then { timer with pending := some session.loop.nextOrder } else timer := by
  rw [timer?, scheduling, List.getElem?_modify]
  rfl

theorem timer?_stopping (session : Session) (index : Nat) (timer : Timer) (other : Nat) :
    (session.stopping index timer).timer? other = (session.timer? other).map fun timer =>
      if index = other then { timer with stopped := true, pending := none } else timer := by
  rw [timer?, stopping, noting, List.getElem?_modify]
  rfl

theorem timer?_clearing (session : Session) (tick : ScheduledTick) (other : Nat) :
    (session.clearing tick).timer? other = (session.timer? other).map fun timer =>
      if tick.timer = other then { timer with pending := none, ticks := timer.ticks + 1 }
      else timer := by
  rw [timer?, clearing, List.getElem?_modify]
  rfl

theorem scheduled_stopping (session : Session) (index : Nat) (timer : Timer) :
    (session.stopping index timer).loop.scheduled =
      session.loop.scheduled.filter fun tick => timer.pending != some tick.order := by
  rw [stopping, noting]
  cases timer.pending with
  | none => exact (List.filter_eq_self.mpr fun _ _ => rfl).symm
  | some order =>
      apply List.filter_congr
      intro tick _
      simp [bne, Bool.beq_comm]

theorem firing_cases (session : Session) (tick : ScheduledTick) :
    session.firing tick = session.clearing tick ∧ (session.timer? tick.timer).isSome = false ∨
      session.firing tick = (session.clearing tick).noting (.ticked tick.timer) ∧
        (session.timer? tick.timer).isSome = true := by
  have kept : ((session.clearing tick).timer? tick.timer).isSome =
      (session.timer? tick.timer).isSome := by rw [timer?_clearing, Option.isSome_map]
  unfold firing
  split
  · rename_i missing
    rw [← kept, missing]
    exact .inl ⟨rfl, rfl⟩
  · rename_i found
    rw [← kept, found]
    exact .inr ⟨rfl, rfl⟩

/-! ## What a change does to timers

Whatever changes, a timer keeps its interval and its callback. -/

def Event.isOfTimer : Event → Bool
  | .ticked _ | .tickReturned _ _ _ | .timerStopped _ => true
  | _ => false

inductive TimerChange (session after : Session) : Prop
  | aside (recent : List Event) (timers : after.timers = session.timers)
      (scheduled : after.loop.scheduled = session.loop.scheduled)
      (nextOrder : after.loop.nextOrder = session.loop.nextOrder)
      (history : after.history = recent ++ session.history)
      (others : ∀ event ∈ recent, event.isOfTimer = false)
  | created (timer : Timer) (idle : timer.pending = none) (fresh : timer.ticks = 0)
      (same : after = { session with timers := session.timers ++ [timer] })
  | scheduled (index : Nat) (timer : Timer) (seconds : Float)
      (found : session.timer? index = some timer) (idle : timer.isRunning = false)
      (going : timer.stopped = false) (same : after = session.scheduling index seconds)
  | stopped (index : Nat) (timer : Timer) (found : session.timer? index = some timer)
      (same : after = session.stopping index timer)
  | fired (tick : ScheduledTick) (due : tick ∈ session.loop.scheduled)
      (same : after = session.firing tick)
  | returned (index : Nat) (timer : Timer) (outcome : Except Failure Unit)
      (found : session.timer? index = some timer)
      (same : after = session.returning index timer outcome)

theorem Change.timer (change : Change since session after) : TimerChange session after := by
  cases change with
  | timerCreated interval delay callback => exact .created _ rfl rfl rfl
  | tickScheduled index timer seconds found idle going =>
      exact .scheduled index timer seconds found idle going rfl
  | timerStopped index timer found => exact .stopped index timer found rfl
  | fired tick due => exact .fired tick due rfl
  | tickReturned index timer outcome found => exact .returned index timer outcome found rfl
  | remarked event remark =>
      refine .aside [event] rfl rfl rfl rfl ?_
      cases event <;> simp_all [Event.isRemark, Event.isOfTimer]
  | named | remembered | settled | kept | timePassed => exact .aside [] rfl rfl rfl rfl (by simp)
  | numbered | launched | unlaunched | started | terminated | refused | called | returned |
    concluded | declined | registered | unregistered | indexed | acknowledgementDue |
    acknowledged => exact .aside [_] rfl rfl rfl rfl (by simp [Event.isOfTimer])
  | opened | reported => exact .aside [_, _] rfl rfl rfl rfl (by simp [Event.isOfTimer])
  | initialized => exact .aside [_, _, _] rfl rfl rfl rfl (by simp [Event.isOfTimer])
  | begun => exact .aside [_, _, _, _, _] rfl rfl rfl rfl (by simp [Event.isOfTimer])
  | answered responder answer =>
      unfold answering
      split <;> exact .aside [_] rfl rfl rfl rfl (by simp [Event.isOfTimer])

theorem TimerChange.kept (change : TimerChange session after) {index : Nat} {timer : Timer}
    (found : session.timer? index = some timer) :
    ∃ later, after.timer? index = some later ∧ later.interval = timer.interval ∧
      later.callback = timer.callback := by
  have mapped {state : Session} {modify : Timer → Timer}
      (same : state.timer? index = (session.timer? index).map modify)
      (kept : (modify timer).interval = timer.interval ∧
        (modify timer).callback = timer.callback) :
      ∃ later, state.timer? index = some later ∧ later.interval = timer.interval ∧
        later.callback = timer.callback := by
    rw [found] at same
    exact ⟨modify timer, same, kept⟩
  rcases change with ⟨recent, timers, _, _, _, _⟩ | ⟨added, _, _, rfl⟩ |
    ⟨other, _, seconds, _, _, _, rfl⟩ | ⟨other, held, _, rfl⟩ | ⟨tick, _, rfl⟩ |
    ⟨other, held, outcome, _, rfl⟩
  · exact ⟨timer, by rw [timer?, timers, ← timer?, found], rfl, rfl⟩
  · have within : index < session.timers.length := (List.getElem?_eq_some_iff.mp found).1
    exact ⟨timer, by rw [timer?, List.getElem?_append_left within, ← timer?, found], rfl, rfl⟩
  · exact mapped (session.timer?_scheduling other seconds index) (by split <;> exact ⟨rfl, rfl⟩)
  · exact mapped (session.timer?_stopping other held index) (by split <;> exact ⟨rfl, rfl⟩)
  · rcases session.firing_cases tick with ⟨same, _⟩ | ⟨same, _⟩ <;> rw [same]
    · exact mapped (session.timer?_clearing tick index) (by split <;> exact ⟨rfl, rfl⟩)
    · exact mapped (session.timer?_clearing tick index) (by split <;> exact ⟨rfl, rfl⟩)
  · rcases session.returning_cases other held outcome with same | same | ⟨entry, same⟩ <;> rw [same]
    · exact ⟨timer, found, rfl, rfl⟩
    · exact mapped (timer?_scheduling _ other _ index) (by split <;> exact ⟨rfl, rfl⟩)
    · exact mapped (timer?_stopping _ other held index) (by split <;> exact ⟨rfl, rfl⟩)

/-! ## The invariant of the schedule -/

structure Clocked (session : Session) : Prop where
  fresh : ∀ tick ∈ session.loop.scheduled, tick.order < session.loop.nextOrder
  distinct : (session.loop.scheduled.map (·.order)).Nodup
  owned : ∀ tick ∈ session.loop.scheduled, (session.timer? tick.timer).isSome = true
  /-- The tick that a timer knows of is on the schedule. -/
  known : ∀ index timer order, session.timer? index = some timer → timer.pending = some order →
    ∃ tick ∈ session.loop.scheduled, tick.order = order ∧ tick.timer = index
  quiet : ∀ index timer, session.timer? index = some timer → timer.stopped = true →
    timer.pending = none

namespace Clocked

theorem of_new (new : session.IsNew) : Clocked session := by
  constructor <;> simp [new.loop, new.timers, timer?]

theorem aside (clocked : Clocked session) (timers : after.timers = session.timers)
    (scheduled : after.loop.scheduled = session.loop.scheduled)
    (nextOrder : after.loop.nextOrder = session.loop.nextOrder) : Clocked after := by
  have same : after.timer? = session.timer? := by
    funext index
    rw [timer?, timers, timer?]
  constructor
  · rw [scheduled, nextOrder]
    exact clocked.fresh
  · rw [scheduled]
    exact clocked.distinct
  · rw [scheduled, same]
    exact clocked.owned
  · rw [scheduled, same]
    exact clocked.known
  · rw [same]
    exact clocked.quiet

theorem eq_of_order (clocked : Clocked session) {first second : ScheduledTick}
    (member : first ∈ session.loop.scheduled) (memberToo : second ∈ session.loop.scheduled)
    (same : first.order = second.order) : first = second :=
  List.inj_on_of_nodup_map clocked.distinct member memberToo same

theorem created (clocked : Clocked session) {timer : Timer} (idle : timer.pending = none) :
    Clocked { session with timers := session.timers ++ [timer] } := by
  have cases : ∀ index held,
      ({ session with timers := session.timers ++ [timer] } : Session).timer? index = some held →
        session.timer? index = some held ∨ held = timer := by
    intro index held found
    rw [timer?, List.getElem?_append] at found
    split at found
    · exact .inl found
    · have member := List.mem_of_getElem? found
      exact .inr (List.mem_singleton.mp member)
  constructor
  · exact clocked.fresh
  · exact clocked.distinct
  · intro tick member
    have held := clocked.owned tick member
    rw [timer?, isSome_getElem?] at held ⊢
    simp only [List.length_append]
    omega
  · intro index held order found pending
    rcases cases index held found with old | rfl
    · exact clocked.known index held order old pending
    · rw [idle] at pending
      cases pending
  · intro index held found stopped
    rcases cases index held found with old | rfl
    · exact clocked.quiet index held old stopped
    · exact idle

theorem scheduling (clocked : Clocked session) {index : Nat} {timer : Timer} (seconds : Float)
    (found : session.timer? index = some timer) (going : timer.stopped = false) :
    Clocked (session.scheduling index seconds) := by
  constructor
  · intro tick member
    change tick.order < session.loop.nextOrder + 1
    rcases List.mem_append.mp member with old | new
    · exact Nat.lt_succ_of_lt (clocked.fresh tick old)
    · rw [List.mem_singleton.mp new]
      exact Nat.lt_succ_self _
  · change (List.map (·.order) (session.loop.scheduled ++ [_])).Nodup
    rw [List.map_append, List.nodup_append]
    refine ⟨clocked.distinct, List.nodup_singleton _, ?_⟩
    intro order old other new same
    rcases List.mem_map.mp old with ⟨tick, member, rfl⟩
    have fresh := clocked.fresh tick member
    rw [same, List.mem_singleton.mp new] at fresh
    exact Nat.lt_irrefl _ fresh
  · intro tick member
    rw [timer?_scheduling, Option.isSome_map]
    rcases List.mem_append.mp member with old | new
    · exact clocked.owned tick old
    · rw [List.mem_singleton.mp new, found]
      rfl
  · intro other held order same pending
    rw [timer?_scheduling] at same
    rcases Option.map_eq_some_iff.mp same with ⟨former, existing, rfl⟩
    split at pending
    · rename_i own
      cases pending
      exact ⟨_, List.mem_append_right _ List.mem_cons_self, rfl, own⟩
    · rcases clocked.known other former order existing pending with ⟨tick, member, facts⟩
      exact ⟨tick, List.mem_append_left _ member, facts⟩
  · intro other held same stopped
    rw [timer?_scheduling] at same
    rcases Option.map_eq_some_iff.mp same with ⟨former, existing, rfl⟩
    split at stopped
    · rename_i own
      rw [own, existing] at found
      cases found
      rw [going] at stopped
      cases stopped
    · rename_i different
      rw [if_neg different]
      exact clocked.quiet other former existing stopped

theorem stopping (clocked : Clocked session) {index : Nat} {timer : Timer}
    (found : session.timer? index = some timer) : Clocked (session.stopping index timer) := by
  constructor
  · intro tick member
    rw [scheduled_stopping] at member
    exact clocked.fresh tick (List.mem_filter.mp member).1
  · rw [scheduled_stopping]
    exact clocked.distinct.sublist (List.filter_sublist.map _)
  · intro tick member
    rw [scheduled_stopping] at member
    rw [timer?_stopping, Option.isSome_map]
    exact clocked.owned tick (List.mem_filter.mp member).1
  · intro other held order same pending
    rw [timer?_stopping] at same
    rcases Option.map_eq_some_iff.mp same with ⟨former, existing, rfl⟩
    split at pending
    · cases pending
    · rename_i different
      rcases clocked.known other former order existing pending with ⟨tick, member, number, own⟩
      refine ⟨tick, ?_, number, own⟩
      -- The tick that is cancelled belongs to the timer that is stopped.
      rw [scheduled_stopping, List.mem_filter]
      refine ⟨member, bne_iff_ne.mpr fun cancelled => ?_⟩
      rcases clocked.known index timer tick.order found cancelled with
        ⟨stopped, memberToo, same, owner⟩
      rw [clocked.eq_of_order memberToo member same] at owner
      exact different (owner.symm.trans own)
  · intro other held same stopped
    rw [timer?_stopping] at same
    rcases Option.map_eq_some_iff.mp same with ⟨former, existing, rfl⟩
    split
    · rfl
    · rename_i different
      rw [if_neg different] at stopped
      exact clocked.quiet other former existing stopped

theorem clearing (clocked : Clocked session) {tick : ScheduledTick}
    (due : tick ∈ session.loop.scheduled) : Clocked (session.clearing tick) := by
  constructor
  · intro other member
    exact clocked.fresh other (List.mem_filter.mp member).1
  · exact clocked.distinct.sublist (List.filter_sublist.map _)
  · intro other member
    rw [timer?_clearing, Option.isSome_map]
    exact clocked.owned other (List.mem_filter.mp member).1
  · intro index held order same pending
    rw [timer?_clearing] at same
    rcases Option.map_eq_some_iff.mp same with ⟨former, existing, rfl⟩
    split at pending
    · cases pending
    · rename_i different
      rcases clocked.known index former order existing pending with ⟨other, member, number, own⟩
      refine ⟨other, List.mem_filter.mpr ⟨member, bne_iff_ne.mpr fun same => ?_⟩, number, own⟩
      rw [clocked.eq_of_order member due same] at own
      exact different own
  · intro index held same stopped
    rw [timer?_clearing] at same
    rcases Option.map_eq_some_iff.mp same with ⟨former, existing, rfl⟩
    split
    · rfl
    · rename_i different
      rw [if_neg different] at stopped
      exact clocked.quiet index former existing stopped

theorem noting (clocked : Clocked session) (event : Event) : Clocked (session.noting event) :=
  clocked.aside rfl rfl rfl

theorem returning (clocked : Clocked session) {index : Nat} {timer : Timer}
    (outcome : Except Failure Unit) (found : session.timer? index = some timer) :
    Clocked (session.returning index timer outcome) := by
  have noted := clocked.noting (.tickReturned index timer.isRunning outcome)
  unfold Session.returning
  cases outcome with
  | ok =>
      dsimp only
      split
      · exact noted
      · rename_i going
        exact noted.scheduling timer.interval found (by simpa using going)
  | error failure =>
      dsimp only
      split
      · exact (noted.noting _).stopping found
      · exact noted

theorem change (clocked : Clocked session) (change : Change since session after) :
    Clocked after := by
  rcases change.timer with ⟨recent, timers, scheduled, nextOrder, _, _⟩ | ⟨timer, idle, _, rfl⟩ |
    ⟨index, timer, seconds, found, _, going, rfl⟩ | ⟨index, timer, found, rfl⟩ |
    ⟨tick, due, rfl⟩ | ⟨index, timer, outcome, found, rfl⟩
  · exact clocked.aside timers scheduled nextOrder
  · exact clocked.created idle
  · exact clocked.scheduling seconds found going
  · exact clocked.stopping found
  · rcases session.firing_cases tick with ⟨same, _⟩ | ⟨same, _⟩ <;> rw [same]
    · exact clocked.clearing due
    · exact (clocked.clearing due).noting _
  · exact clocked.returning outcome found

end Clocked

theorem Reachable.clocked (reachable : Reachable session) : Clocked session :=
  reachable.preserves (fun _ => .of_new) fun _ _ _ clocked change => clocked.change change

end RpcSession.Session
