import RpcSession.Proofs.Timers.Schedule

/-!
# The ticks of a timer

A timer has a tick on the schedule exactly while it runs, never two of them, and does not tick any
more once it was stopped or its callback failed. That is so as long as no callback of the timer
comes back and leaves it started again: such a timer gets a second tick beside the one it has, of
which it does not know and which a stop does not cancel.
-/

namespace RpcSession.Session

variable {since : Int} {session after : Session} {index : Nat}

def ticksOf (session : Session) (index : Nat) : List ScheduledTick :=
  session.loop.scheduled.filter (·.timer == index)

namespace Event

/-- Whether a callback of a timer came back without a failure and left its timer running. -/
def isRestart (index : Nat) : Event → Bool
  | .tickReturned timer running (.ok ()) => timer == index && running
  | _ => false

/-- Whether a timer was stopped or its callback failed. -/
def silences (index : Nat) : Event → Bool
  | .timerStopped timer => timer == index
  | .tickReturned timer _ (.error failure) => timer == index && failure.isOrdinary
  | _ => false

def tick? : Event → Option Nat
  | .ticked timer => some timer
  | _ => none

theorem mem_filterMap_tick? {events : List Event} :
    index ∈ events.filterMap tick? ↔ .ticked index ∈ events := by
  rw [List.mem_filterMap]
  constructor
  · rintro ⟨event, member, same⟩
    cases event <;> cases same
    exact member
  · exact fun member => ⟨_, member, rfl⟩

theorem aside_of_not_isOfTimer {event : Event} (other : event.isOfTimer = false) (index : Nat) :
    event.isRestart index = false ∧ event.silences index = false ∧ event.tick? = none := by
  cases event <;> simp_all [isOfTimer, isRestart, silences, tick?]

end Event

def isRestarted (index : Nat) (history : List Event) : Bool :=
  history.any (Event.isRestart index)

/-! ## Ticks that their timer knows of -/

/-- A timer knows of every tick of its own that is scheduled. -/
def InStep (index : Nat) (session : Session) : Prop :=
  ∀ timer, session.timer? index = some timer →
    ∀ tick ∈ session.loop.scheduled, tick.timer = index → timer.pending = some tick.order

namespace InStep

theorem aside (inStep : InStep index session) (timers : after.timers = session.timers)
    (scheduled : after.loop.scheduled = session.loop.scheduled) : InStep index after := by
  intro timer found tick member own
  rw [timer?, timers] at found
  rw [scheduled] at member
  exact inStep timer found tick member own

theorem noting (inStep : InStep index session) (event : Event) :
    InStep index (session.noting event) := inStep.aside rfl rfl

private theorem created (inStep : InStep index session) (clocked : Clocked session)
    (timer : Timer) :
    InStep index { session with timers := session.timers ++ [timer] } := by
  intro held found tick member own
  have owned := clocked.owned tick member
  rw [own, timer?, isSome_getElem?] at owned
  rw [timer?, List.getElem?_append_left owned] at found
  exact inStep held found tick member own

theorem scheduling (inStep : InStep index session) {other : Nat} (seconds : Float)
    (idle : other = index → ∀ timer, session.timer? index = some timer → timer.pending = none) :
    InStep index (session.scheduling other seconds) := by
  intro held same tick member own
  rw [timer?_scheduling] at same
  rcases Option.map_eq_some_iff.mp same with ⟨timer, found, rfl⟩
  rcases List.mem_append.mp member with old | new
  · have pending := inStep timer found tick old own
    split
    · rename_i equal
      rw [idle equal timer found] at pending
      cases pending
    · exact pending
  · rw [List.mem_singleton.mp new] at own ⊢
    rw [if_pos own]

theorem stopping (inStep : InStep index session) {other : Nat} {timer : Timer}
    (found : session.timer? other = some timer) : InStep index (session.stopping other timer) := by
  intro held same tick member own
  rw [timer?_stopping] at same
  rcases Option.map_eq_some_iff.mp same with ⟨former, existing, rfl⟩
  rw [scheduled_stopping] at member
  rcases List.mem_filter.mp member with ⟨scheduled, uncancelled⟩
  have pending := inStep former existing tick scheduled own
  split
  · rename_i equal
    rw [equal, existing] at found
    cases found
    exact absurd pending (bne_iff_ne.mp uncancelled)
  · exact pending

private theorem clearing (inStep : InStep index session) {fired : ScheduledTick}
    (due : fired ∈ session.loop.scheduled) : InStep index (session.clearing fired) := by
  intro held same tick member own
  rw [timer?_clearing] at same
  rcases Option.map_eq_some_iff.mp same with ⟨timer, found, rfl⟩
  rcases List.mem_filter.mp member with ⟨scheduled, other⟩
  have pending := inStep timer found tick scheduled own
  split
  · rename_i equal
    rw [inStep timer found fired due equal] at pending
    exact absurd (Option.some.inj pending).symm (bne_iff_ne.mp other)
  · exact pending

private theorem returning (inStep : InStep index session) {other : Nat} {timer : Timer}
    {outcome : Except Failure Unit} (found : session.timer? other = some timer)
    (once : (Event.tickReturned other timer.isRunning outcome).isRestart index = false) :
    InStep index (session.returning other timer outcome) := by
  have noted := inStep.noting (.tickReturned other timer.isRunning outcome)
  unfold Session.returning
  cases outcome with
  | ok =>
      dsimp only
      split
      · exact noted
      · apply noted.scheduling
        rintro rfl held same
        cases found.symm.trans same
        simpa [Event.isRestart, Timer.isRunning] using once
  | error failure =>
      dsimp only
      split
      · exact (noted.noting _).stopping found
      · exact noted

/-- A timer that knows of all its ticks has one while it runs, and else none. -/
private theorem length_ticksOf (inStep : InStep index session) (clocked : Clocked session)
    {timer : Timer} (found : session.timer? index = some timer) :
    (session.ticksOf index).length = if timer.isRunning then 1 else 0 := by
  have pending : ∀ tick ∈ session.ticksOf index, timer.pending = some tick.order := by
    intro tick member
    rcases List.mem_filter.mp member with ⟨scheduled, own⟩
    exact inStep timer found tick scheduled (beq_iff_eq.mp own)
  cases running : timer.pending with
  | none =>
      have empty : session.ticksOf index = [] := by
        rw [List.eq_nil_iff_forall_not_mem]
        intro tick member
        have known := pending tick member
        rw [running] at known
        cases known
      rw [empty, Timer.isRunning, running]
      rfl
  | some order =>
      rcases clocked.known index timer order found running with ⟨tick, member, number, own⟩
      have inside : tick ∈ session.ticksOf index :=
        List.mem_filter.mpr ⟨member, beq_iff_eq.mpr own⟩
      have same : ∀ other ∈ session.ticksOf index, other = tick := by
        intro other another
        have known := pending other another
        rw [running, ← number] at known
        exact clocked.eq_of_order (List.mem_filter.mp another).1 member
          (Option.some.inj known).symm
      have once : (session.ticksOf index).Nodup :=
        (List.Nodup.of_map _ clocked.distinct).filter _
      rw [List.eq_replicate_of_mem same, List.nodup_replicate] at once
      have some := List.length_pos_of_mem inside
      rw [Timer.isRunning, running]
      simp only [Option.isSome_some, ↓reduceIte]
      omega

end InStep

/-! ## Timers that are silent

What stops a timer for good leaves it stopped, and a stopped timer has no tick that could fire. -/

private theorem TimerChange.ticked (change : TimerChange session after) :
    (∃ recent, after.history = recent ++ session.history ∧
      recent.filterMap Event.tick? = []) ∨
    ∃ tick ∈ session.loop.scheduled,
      after.history = .ticked tick.timer :: session.history := by
  rcases change with ⟨recent, _, _, _, history, others⟩ | ⟨timer, _, _, rfl⟩ |
    ⟨other, timer, seconds, _, _, _, rfl⟩ | ⟨other, timer, found, rfl⟩ | ⟨tick, due, rfl⟩ |
    ⟨other, timer, outcome, found, rfl⟩
  · refine .inl ⟨recent, history, List.filterMap_eq_nil_iff.mpr fun event member => ?_⟩
    exact (Event.aside_of_not_isOfTimer (others event member) 0).2.2
  · exact .inl ⟨[], rfl, rfl⟩
  · exact .inl ⟨[], rfl, rfl⟩
  · exact .inl ⟨[.timerStopped other], rfl, rfl⟩
  · rcases session.firing_cases tick with ⟨same, _⟩ | ⟨same, _⟩ <;> rw [same]
    · exact .inl ⟨[], rfl, rfl⟩
    · exact .inr ⟨tick, due, rfl⟩
  · rcases session.returning_cases other timer outcome with same | same | ⟨entry, same⟩ <;>
      rw [same]
    · exact .inl ⟨[_], rfl, rfl⟩
    · exact .inl ⟨[_], rfl, rfl⟩
    · exact .inl ⟨[_, _, _], rfl, rfl⟩

def IsStopped (index : Nat) (session : Session) : Prop :=
  ∃ timer, session.timer? index = some timer ∧ timer.stopped = true

namespace IsStopped

private theorem aside (stopped : IsStopped index session) (timers : after.timers = session.timers) :
    IsStopped index after := by
  rwa [IsStopped, timer?, timers]

private theorem created (stopped : IsStopped index session) (timer : Timer) :
    IsStopped index { session with timers := session.timers ++ [timer] } := by
  rcases stopped with ⟨held, found, stopped⟩
  have within : index < session.timers.length := (List.getElem?_eq_some_iff.mp found).1
  exact ⟨held, by rw [timer?, List.getElem?_append_left within, ← timer?, found], stopped⟩

private theorem scheduling (stopped : IsStopped index session) (other : Nat) (seconds : Float) :
    IsStopped index (session.scheduling other seconds) := by
  rcases stopped with ⟨timer, found, stopped⟩
  refine ⟨_, by rw [timer?_scheduling, found]; rfl, ?_⟩
  split <;> exact stopped

private theorem stopping (stopped : IsStopped index session) (other : Nat) (timer : Timer) :
    IsStopped index (session.stopping other timer) := by
  rcases stopped with ⟨held, found, stopped⟩
  refine ⟨_, by rw [timer?_stopping, found]; rfl, ?_⟩
  split
  · rfl
  · exact stopped

theorem of_stopping {timer : Timer} (found : session.timer? index = some timer) :
    IsStopped index (session.stopping index timer) :=
  ⟨_, by rw [timer?_stopping, found]; rfl, by simp⟩

private theorem of_returning {timer : Timer} {failure : Failure}
    (found : session.timer? index = some timer) (ordinary : failure.isOrdinary = true) :
    IsStopped index (session.returning index timer (.error failure)) := by
  have same : session.returning index timer (.error failure) = _ := if_pos ordinary
  rw [same]
  exact .of_stopping found

private theorem clearing (stopped : IsStopped index session) (tick : ScheduledTick) :
    IsStopped index (session.clearing tick) := by
  rcases stopped with ⟨timer, found, stopped⟩
  refine ⟨_, by rw [timer?_clearing, found]; rfl, ?_⟩
  split <;> exact stopped

theorem change (stopped : IsStopped index session) (change : Change since session after) :
    IsStopped index after := by
  rcases change.timer with ⟨recent, timers, _, _, _, _⟩ | ⟨timer, _, _, rfl⟩ |
    ⟨other, timer, seconds, _, _, _, rfl⟩ | ⟨other, timer, _, rfl⟩ | ⟨tick, _, rfl⟩ |
    ⟨other, timer, outcome, _, rfl⟩
  · exact stopped.aside timers
  · exact stopped.created timer
  · exact stopped.scheduling other seconds
  · exact stopped.stopping other timer
  · rcases session.firing_cases tick with ⟨same, _⟩ | ⟨same, _⟩ <;> rw [same]
    · exact stopped.clearing tick
    · exact (stopped.clearing tick).aside rfl
  · have noted : IsStopped index
        (session.noting (.tickReturned other timer.isRunning outcome)) := stopped.aside rfl
    rcases session.returning_cases other timer outcome with same | same | ⟨entry, same⟩ <;>
      rw [same]
    · exact noted
    · exact noted.scheduling other _
    · have logged : IsStopped index ((session.noting
          (.tickReturned other timer.isRunning outcome)).noting (.logged entry)) := noted.aside rfl
      exact logged.stopping other timer

end IsStopped

inductive TimerNews (session after : Session) : Event → Prop
  | old (event : Event) (member : event ∈ session.history) : TimerNews session after event
  | aside (event : Event) (other : event.isOfTimer = false) : TimerNews session after event
  | ticked (index : Nat) : TimerNews session after (.ticked index)
  | stopped (index : Nat) (stopped : IsStopped index after) :
      TimerNews session after (.timerStopped index)
  | returned (index : Nat) (timer : Timer) (outcome : Except Failure Unit)
      (found : session.timer? index = some timer)
      (same : after = session.returning index timer outcome) :
      TimerNews session after (.tickReturned index timer.isRunning outcome)

private theorem timerNews_of_returning {timer : Timer} {outcome : Except Failure Unit}
    {event : Event} (found : session.timer? index = some timer)
    (member : event ∈ (session.returning index timer outcome).history) :
    TimerNews session (session.returning index timer outcome) event := by
  have news : event ∈ (session.noting (.tickReturned index timer.isRunning outcome)).history →
      TimerNews session (session.returning index timer outcome) event := by
    intro noted
    rcases List.mem_cons.mp noted with rfl | earlier
    · exact .returned index timer outcome found rfl
    · exact .old event earlier
  rcases session.returning_cases index timer outcome with same | same | ⟨entry, same⟩
  · rw [same] at member
    exact news member
  · rw [same] at member
    exact news member
  · have stopped : IsStopped index (session.returning index timer outcome) := by
      rw [same]
      exact .of_stopping found
    rw [same] at member
    rcases List.mem_cons.mp member with rfl | logged
    · exact .stopped index stopped
    · rcases List.mem_cons.mp logged with rfl | noted
      · exact .aside _ rfl
      · exact news noted

theorem TimerChange.news {event : Event} (change : TimerChange session after)
    (member : event ∈ after.history) : TimerNews session after event := by
  rcases change with ⟨recent, _, _, _, history, others⟩ | ⟨timer, _, _, rfl⟩ |
    ⟨other, timer, seconds, _, _, _, rfl⟩ | ⟨other, timer, found, rfl⟩ | ⟨tick, _, rfl⟩ |
    ⟨other, timer, outcome, found, rfl⟩
  · rw [history] at member
    rcases List.mem_append.mp member with new | earlier
    · exact .aside event (others event new)
    · exact .old event earlier
  · exact .old event member
  · exact .old event member
  · rcases List.mem_cons.mp member with rfl | earlier
    · exact .stopped other (.of_stopping found)
    · exact .old event earlier
  · rcases session.firing_cases tick with ⟨same, _⟩ | ⟨same, _⟩ <;> rw [same] at member ⊢
    · exact .old event member
    · rcases List.mem_cons.mp member with rfl | earlier
      · exact .ticked tick.timer
      · exact .old event earlier
  · exact timerNews_of_returning found member

def Stilled (index : Nat) (session : Session) : Prop :=
  ∀ event ∈ session.history, event.silences index = true → IsStopped index session

theorem Stilled.change (stilled : Stilled index session) (change : Change since session after) :
    Stilled index after := by
  intro event member silences
  cases change.timer.news member with
  | old _ earlier => exact (stilled event earlier silences).change change
  | aside _ other =>
      rw [(Event.aside_of_not_isOfTimer other index).2.1] at silences
      cases silences
  | ticked => cases silences
  | stopped other stopped =>
      cases beq_iff_eq.mp silences
      exact stopped
  | returned other timer outcome found same =>
      cases outcome with
      | ok => cases silences
      | error failure =>
          rcases Bool.and_eq_true_iff.mp silences with ⟨own, ordinary⟩
          cases beq_iff_eq.mp own
          rw [same]
          exact .of_returning found ordinary

def Silent (index : Nat) (history : List Event) : Prop :=
  Throughout (fun latest earlier => latest = .ticked index →
    ∀ event ∈ earlier, event.silences index = false) history

theorem Silent.change (silent : Silent index session.history) (clocked : Clocked session)
    (inStep : InStep index session) (stilled : Stilled index session)
    (change : Change since session after) : Silent index after.history := by
  rcases change.timer.ticked with ⟨recent, history, quiet⟩ | ⟨tick, due, history⟩ <;> rw [history]
  · refine Throughout.append silent ?_
    rintro latest member earlier rfl
    have ticked := Event.mem_filterMap_tick?.mpr member
    rw [quiet] at ticked
    cases ticked
  · refine Throughout.cons_iff.mpr ⟨fun same event member => ?_, silent⟩
    cases same
    rw [← Bool.not_eq_true]
    intro silences
    -- A timer that was stopped knows of no tick, but it knows of all its ticks.
    rcases stilled event member silences with ⟨timer, found, stopped⟩
    have none := clocked.quiet tick.timer timer found stopped
    rw [inStep timer found tick due rfl] at none
    cases none

/-! ## Restarts

A callback that comes back to a running timer has it scheduled another tick, beside the one that
the timer knows of. -/

private theorem mem_history_returning (session : Session) (index : Nat) (timer : Timer)
    (outcome : Except Failure Unit) :
    .tickReturned index timer.isRunning outcome ∈
      (session.returning index timer outcome).history := by
  rcases session.returning_cases index timer outcome with same | same | ⟨entry, same⟩ <;>
    rw [same] <;> simp [noting, scheduling, stopping]

theorem InStep.change (inStep : InStep index session) (clocked : Clocked session)
    (change : Change since session after) (once : isRestarted index after.history = false) :
    InStep index after := by
  rcases change.timer with ⟨recent, timers, scheduled, _, _, _⟩ | ⟨timer, _, _, rfl⟩ |
    ⟨other, timer, seconds, found, idle, _, rfl⟩ | ⟨other, timer, found, rfl⟩ | ⟨tick, due, rfl⟩ |
    ⟨other, timer, outcome, found, rfl⟩
  · exact inStep.aside timers scheduled
  · exact inStep.created clocked timer
  · apply inStep.scheduling seconds
    rintro rfl held same
    cases found.symm.trans same
    simpa [Timer.isRunning] using idle
  · exact inStep.stopping found
  · rcases session.firing_cases tick with ⟨same, _⟩ | ⟨same, _⟩ <;> rw [same]
    · exact inStep.clearing due
    · exact (inStep.clearing due).noting _
  · apply inStep.returning found
    rw [← Bool.not_eq_true]
    intro restart
    have restarted : isRestarted index (session.returning other timer outcome).history = true :=
      List.any_eq_true.mpr ⟨_, mem_history_returning session other timer outcome, restart⟩
    rw [once] at restarted
    cases restarted

private theorem ticksOf_scheduling (clocked : Clocked session) {timer : Timer} (seconds : Float)
    (found : session.timer? index = some timer) (running : timer.isRunning = true) :
    2 ≤ ((session.scheduling index seconds).ticksOf index).length := by
  rcases Option.isSome_iff_exists.mp running with ⟨order, pending⟩
  rcases clocked.known index timer order found pending with ⟨tick, member, _, own⟩
  have inside : tick ∈ session.ticksOf index := List.mem_filter.mpr ⟨member, beq_iff_eq.mpr own⟩
  have held := List.length_pos_of_mem inside
  have grown : (session.scheduling index seconds).ticksOf index =
      session.ticksOf index ++ [⟨session.loop.nextOrder, session.loop.now + seconds, index⟩] := by
    simp [ticksOf, scheduling]
  rw [grown, List.length_append]
  exact Nat.succ_le_succ held

private theorem ticksOf_returning (clocked : Clocked session) {timer : Timer}
    (found : session.timer? index = some timer) (running : timer.isRunning = true) :
    2 ≤ ((session.returning index timer (.ok ())).ticksOf index).length := by
  have going : ¬timer.stopped = true := by
    intro stopped
    rw [Timer.isRunning, clocked.quiet index timer found stopped] at running
    cases running
  have same : session.returning index timer (.ok ()) = _ := if_neg going
  rw [same]
  exact ticksOf_scheduling (clocked.noting _) timer.interval found running

private theorem Change.restarts (clocked : Clocked session) (change : Change since session after)
    (restarted : isRestarted index after.history = true) :
    isRestarted index session.history = true ∨ 2 ≤ (after.ticksOf index).length := by
  rcases List.any_eq_true.mp restarted with ⟨event, member, restart⟩
  cases change.timer.news member with
  | old _ earlier => exact .inl (List.any_eq_true.mpr ⟨event, earlier, restart⟩)
  | aside _ other =>
      rw [(Event.aside_of_not_isOfTimer other index).1] at restart
      cases restart
  | ticked | stopped => cases restart
  | returned other timer outcome found same =>
      cases outcome with
      | error failure => cases restart
      | ok =>
          rcases Bool.and_eq_true_iff.mp restart with ⟨own, running⟩
          cases beq_iff_eq.mp own
          rw [same]
          exact .inr (ticksOf_returning clocked found running)

/-! ## The ticks of every timer -/

private theorem isRestarted_of_suffix {earlier history : List Event} (suffix : earlier <:+ history)
    (once : isRestarted index history = false) : isRestarted index earlier = false := by
  rw [← Bool.not_eq_true] at once ⊢
  intro restarted
  rcases List.any_eq_true.mp restarted with ⟨event, member, restart⟩
  exact once (List.any_eq_true.mpr ⟨event, suffix.subset member, restart⟩)

theorem Reachable.stilled (reachable : Reachable session) (index : Nat) :
    Stilled index session := by
  apply reachable.preserves
  · intro first new event member
    simp [new.history] at member
  · exact fun _ _ _ stilled change => stilled.change change

theorem Reachable.inStep (reachable : Reachable session)
    (once : isRestarted index session.history = false) :
    InStep index session ∧ Silent index session.history := by
  induction reachable with
  | new new =>
      constructor
      · intro timer found
        simp [timer?, new.timers] at found
      · rw [new.history]
        exact .nil
  | step before change induction =>
      have clocked := before.clocked
      rcases induction (isRestarted_of_suffix change.history_suffix once) with ⟨inStep, silent⟩
      exact ⟨inStep.change clocked change once,
        silent.change clocked inStep (before.stilled index) change⟩

theorem Reachable.two_ticks (reachable : Reachable session)
    (restarted : isRestarted index session.history = true) :
    ∃ moment, Reachable moment ∧ moment.history <:+ session.history ∧
      2 ≤ (moment.ticksOf index).length := by
  induction reachable with
  | new new => simp [isRestarted, new.history] at restarted
  | @step since session after before change induction =>
      rcases change.restarts before.clocked restarted with earlier | two
      · rcases induction earlier with ⟨moment, reachable, suffix, two⟩
        exact ⟨moment, reachable, suffix.trans change.history_suffix, two⟩
      · exact ⟨after, before.step change, List.suffix_refl _, two⟩

/-- A timer has one tick on the schedule while it runs and none while it does not, and it never
ticks again after it was stopped or its callback failed, unless a callback of it came back without
a failure and left it running. Whenever one did so, the timer had two ticks. -/
theorem timer_ticks_once_unless_restarted (reachable : Reachable session) (index : Nat) :
    (isRestarted index session.history = false →
      (∀ timer, session.timer? index = some timer →
        (session.ticksOf index).length = if timer.isRunning then 1 else 0) ∧
      (∀ later event earlier, session.history = later ++ event :: earlier →
        event.silences index = true → .ticked index ∉ later)) ∧
    (isRestarted index session.history = true →
      ∃ moment, Reachable moment ∧ moment.history <:+ session.history ∧
        2 ≤ (moment.ticksOf index).length) := by
  refine ⟨fun once => ?_, reachable.two_ticks⟩
  rcases reachable.inStep once with ⟨inStep, silent⟩
  refine ⟨fun timer found => inStep.length_ticksOf reachable.clocked found, ?_⟩
  intro later event earlier split silences ticked
  rcases List.append_of_mem ticked with ⟨last, between, rfl⟩
  have suffix : .ticked index :: (between ++ event :: earlier) <:+ session.history :=
    ⟨last, by simp [split]⟩
  have silenced := silent _ _ suffix rfl event (by simp)
  rw [silences] at silenced
  cases silenced

/-- A callback that starts its timer and then fails: what it scheduled is cancelled. -/
theorem timer_ticks_once_unless_restarted_of_failure :
    let callback : Program := .andThen (.startTimer "beat") (.fail (.host .runtime []))
    let session := ({} : Session).after
      [(4, .createTimer "beat" 1 none callback), (4, .startTimer "beat"), (4, .advance 5)]
    Reachable session ∧ isRestarted 0 session.history = false ∧ (session.ticksOf 0).length = 0 ∧
      ∃ timer later event earlier, session.timer? 0 = some timer ∧ timer.ticks = 1 ∧
        session.history = later ++ event :: earlier ∧ event.silences 0 = true ∧
        .ticked 0 ∉ later := by
  intro callback session
  have reachable : Reachable session := (Reachable.new isNew_default).after _
  have once : isRestarted 0 session.history = false := by decide +kernel
  have failed : session.history.any (Event.silences 0) = true := by decide +kernel
  have told : (session.timer? 0).map (fun timer => (timer.isRunning, timer.ticks)) =
      some (false, 1) := by decide +kernel
  rcases Option.map_eq_some_iff.mp told with ⟨timer, found, same⟩
  rcases Prod.mk.inj same with ⟨idle, count⟩
  rcases List.any_eq_true.mp failed with ⟨event, member, silences⟩
  rcases List.append_of_mem member with ⟨later, earlier, split⟩
  rcases (timer_ticks_once_unless_restarted reachable 0).1 once with ⟨ticks, silent⟩
  refine ⟨reachable, once, ?_, timer, later, event, earlier, found, count, split, silences,
    silent later event earlier split silences⟩
  rw [ticks timer found, idle]
  rfl

/-- A callback that starts its timer and comes back. The timer has two ticks then, and after it was
stopped it ticks once more. -/
theorem timer_ticks_after_stop_of_restart :
    let callback : Program := .andThen (.startTimer "beat") (.done .null)
    let running := ({} : Session).after
      [(4, .createTimer "beat" 1 none callback), (4, .startTimer "beat"), (4, .advance 1)]
    let session := running.after [(4, .stopTimer "beat"), (4, .advance 5)]
    let later := session.history.take 2
    let earlier := session.history.drop 2
    Reachable running ∧ Reachable session ∧ (running.ticksOf 0).length = 2 ∧
      session.history = later ++ earlier ∧ earlier.any (Event.silences 0) = true ∧
      .ticked 0 ∈ later := by
  intro callback running session later earlier
  have reachable : Reachable running := (Reachable.new isNew_default).after _
  have ticked : 0 ∈ later.filterMap Event.tick? := by decide +kernel
  exact ⟨reachable, reachable.after _, by decide +kernel, (List.take_append_drop 2 _).symm,
    by decide +kernel, Event.mem_filterMap_tick?.mp ticked⟩

end RpcSession.Session
