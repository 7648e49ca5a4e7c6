import RpcSession.Proofs.Movement.Progress

/-!
# Timers, indexing and the loop as series of changes

A tick that is due leaves the schedule, clears its timer and is counted in one change; then the
callback of the timer runs.
-/

namespace RpcSession.Session

variable {since : Int} {session : Session} {invoke : Invoke}

/-! ## Timers -/

theorem createTimer_moves (interval : Float) (delay : Option Float) (callback : TimerCallback) :
    Moves since session (createTimer interval delay callback) := by
  unfold createTimer
  split
  · exact .fail _
  · rename_i positive
    apply Moves.get
    exact .modify (.timerCreated interval _ callback positive) (.pure _)

theorem startTimer_moves (index : Nat) : Moves since session (startTimer index) := by
  apply Moves.get
  split
  · exact .pure ()
  · rename_i timer found
    split
    · exact .pure ()
    · rename_i idle
      rw [Bool.or_eq_true, not_or, Bool.not_eq_true, Bool.not_eq_true] at idle
      exact .of_change (.tickScheduled index timer _ found idle.1 idle.2)

theorem stopTimer_apply {index : Nat} {timer : Timer} (found : session.timer? index = some timer) :
    stopTimer index session = (.value (), session.stopping index timer) := by
  rw [stopTimer, Action.get_bind_apply, found]
  rcases timer with ⟨interval, delay, callback, pending, stopped, ticks⟩
  cases pending <;> rfl

theorem stopTimer_moves (index : Nat) : Moves since session (stopTimer index) := by
  cases found : session.timer? index with
  | none =>
      apply Moves.get
      rw [found]
      exact .pure ()
  | some timer =>
      apply Moves.of_change
      rw [stopTimer_apply found]
      exact .timerStopped index timer found

theorem finishTick_apply {index : Nat} {timer : Timer}
    (found : session.timer? index = some timer) (outcome : Except Failure Unit) :
    (finishTick index outcome session).2 = session.returning index timer outcome := by
  rw [finishTick, Action.get_bind_apply, Action.bind_of_value (record_apply _ _), found]
  unfold returning
  cases outcome with
  | ok =>
      dsimp only [Option.any_some]
      split <;> rfl
  | error failure =>
      dsimp only [Option.any_some]
      split
      · have idle : ((session.noting (.tickReturned index timer.isRunning (.error failure))).noting
            (.logged (tickFailureEntry failure))).timer? index = some timer := found
        exact congrArg Prod.snd (stopTimer_apply idle)
      · rfl

theorem runTick_moves {runCallback : TimerCallback → Nat → Action Session Unit} {index : Nat}
    {timer : Timer} (exists' : (session.timer? index).isSome = true)
    (runs : Moves since session (runCallback timer.callback timer.ticks)) :
    Moves since session (runTick runCallback index timer) := by
  intro entered
  refine runs.attempt.bind (fun outcome _ => ?_) entered
  have kept := (runs.attempt entered).timer?_isSome exists'
  rcases Option.isSome_iff_exists.mp kept with ⟨current, found⟩
  apply Moves.of_change
  rw [finishTick_apply found]
  exact .tickReturned index current outcome found

/-! ## Indexing -/

theorem progress?_token {token : Int} {progress : Progress}
    (found : session.progress? token = some progress) : progress.token = token := by
  have same := List.find?_some found
  simpa using same

theorem indexFile_moves (moving : Invoke.Moves invoke) (timer : Nat) (token files : Int)
    (onFinish : Option Program) (indexed : Nat) :
    Moves since session (indexFile invoke timer token files onFinish indexed) := by
  apply Moves.get
  split
  · exact stopTimer_moves timer
  · split
    · exact .pure ()
    · rename_i progress found
      have held : session.progress? progress.token = some progress := by
        rw [progress?_token found, found]
      cases percentageOf indexed files with
      | error failure => exact .fail failure
      | ok percentage =>
          apply (update_moves moving held _).seq
          intro _ middle
          apply Moves.get
          split
          · exact .pure ()
          · rename_i current foundAgain
            have held : middle.progress? current.token = some current := by
              rw [progress?_token foundAgain, foundAgain]
            split
            · apply (finish_moves moving held _).seq
              intro _ finished
              apply (stopTimer_moves timer).seq
              intro _ idle
              apply (log_moves _ _ _).seq
              intro _ logged
              apply Moves.modify (.indexed token)
              split
              · exact (moving _ _ _).seq fun _ _ => .pure ()
              · exact .pure ()
            · exact .pure ()

theorem runTimerCallback_moves (moving : Invoke.Moves invoke) (timer : Nat)
    (callback : TimerCallback) (ticks : Nat) :
    Moves since session (runTimerCallback invoke timer callback ticks) := by
  cases callback with
  | host callback => exact (moving _ _ _).seq fun _ _ => .pure ()
  | indexing token files onFinish => exact indexFile_moves moving _ _ _ _ _

theorem receiveIndexing_moves (moving : Invoke.Moves invoke) (files : Option Int)
    (delay interval : Float) (draw : Program) (onFinish : Option Program) :
    Moves since session (receiveIndexing invoke files delay interval draw onFinish) := by
  have rest : ∀ (files : Int) (middle : Session), Moves since middle (do
      let token ← begin invoke (.string "indexing") (.string "") (.int 0)
      let timer ← createTimer interval delay (.indexing token files onFinish)
      startTimer timer) := by
    intro files middle
    apply (begin_moves moving _ _ _).seq
    intro token begun
    apply (createTimer_moves _ _ _).seq
    intro timer created
    exact startTimer_moves timer
  cases files with
  | some files => exact rest files session
  | none => exact ((moving _ _ _).map _).seq rest

/-! ## Loop

Running the acknowledgements takes the first one and goes on with the rest; a tick that fires runs
as one whose timer has just been cleared. -/

theorem guarded_moves {callback : Action Session Unit} (moves : Moves since session callback) :
    Moves since session (guarded callback) := by
  apply moves.attempt.seq
  intro result middle
  cases result with
  | ok => exact .pure ()
  | error failure => exact record_moves rfl

theorem takeReady_of_cons {next : Acknowledgement} {ready : List Acknowledgement}
    (first : session.loop.ready = next :: ready) :
    takeReady session =
      (.value (some next), { session with loop := { session.loop with ready } }) := by
  simp only [takeReady, first]

theorem takeReady_of_nil (none : session.loop.ready = []) :
    takeReady session = (.value Option.none, session) := by
  simp only [takeReady, none]

theorem drain_succ (invoke : Invoke) (fuel : Nat) :
    drain invoke (fuel + 1) = (do
      match ← takeReady with
      | some next => do acknowledge invoke next; drain invoke fuel
      | none => pure ()) := by
  funext session
  rw [drain, Action.bind_apply]
  dsimp only
  cases waiting : session.loop.ready with
  | nil =>
      rw [takeReady_of_nil waiting]
      rfl
  | cons next ready =>
      rw [takeReady_of_cons waiting]
      dsimp only
      rw [Action.bind_apply]
      generalize acknowledge invoke next _ = result
      rcases result with ⟨outcome, after⟩
      cases outcome <;> rfl

theorem drain_of_ready (invoke : Invoke) (fuel : Nat) {next : Acknowledgement}
    {ready : List Acknowledgement} (first : session.loop.ready = next :: ready) :
    drain invoke (fuel + 1) session =
      (do
        guarded do let _ ← invoke (next.callback next.identifier)
        drain invoke fuel : Action Session Unit)
        ({ session with loop := { session.loop with ready } }.noting
          (.acknowledged next.identifier)) := by
  rw [drain_succ, Action.bind_of_value (takeReady_of_cons first)]
  rfl

theorem drain_moves (moving : Invoke.Moves invoke) (fuel : Nat) :
    Moves since session (drain invoke fuel) := by
  induction fuel generalizing session with
  | zero => exact .exhausted
  | succ fuel induction =>
      cases waiting : session.loop.ready with
      | nil =>
          apply Moves.of_eq
          rw [drain_succ, Action.bind_of_value (takeReady_of_nil waiting)]
          rfl
      | cons next ready =>
          apply Moves.step (.acknowledged next ready waiting) (drain_of_ready invoke fuel waiting)
          apply Moves.seq
          · exact guarded_moves ((moving _ _ _).seq fun _ _ => .pure ())
          · exact fun _ _ => induction

theorem guarded_congr {first second : Action Session Unit} {middle : Session}
    (same : first session = second middle) : guarded first session = guarded second middle := by
  simp only [guarded, Action.bind_apply, Action.attempt, same]

theorem fire_apply (invoke : Invoke) (scheduled : ScheduledTick) :
    fire invoke scheduled session =
      guarded (match (session.firing scheduled).timer? scheduled.timer with
        | none => pure ()
        | some timer =>
            runTick (runTimerCallback invoke scheduled.timer) scheduled.timer timer)
        (session.firing scheduled) := by
  change guarded (tick _ scheduled.timer)
    { session with loop := session.loop.taking scheduled } = _
  apply guarded_congr
  change (match (session.clearing scheduled).timer? scheduled.timer with
    | none => pure ()
    | some timer => record _ >>= fun _ => runTick _ scheduled.timer timer)
      (session.clearing scheduled) = _
  unfold firing
  cases found : (session.clearing scheduled).timer? scheduled.timer with
  | none =>
      dsimp only
      rw [found]
  | some timer =>
      have kept : ((session.clearing scheduled).noting (.ticked scheduled.timer)).timer?
          scheduled.timer = some timer := found
      dsimp only
      rw [kept]
      rfl

theorem fire_moves (moving : Invoke.Moves invoke) {scheduled : ScheduledTick}
    (due : scheduled ∈ session.loop.scheduled) : Moves since session (fire invoke scheduled) := by
  apply Moves.step (.fired scheduled due) (fire_apply invoke scheduled)
  apply guarded_moves
  split
  · exact .pure ()
  · rename_i timer found
    exact runTick_moves (by rw [found]; rfl) (runTimerCallback_moves moving _ _ _)

def PicksScheduled (choose : List ScheduledTick → Option ScheduledTick) : Prop :=
  ∀ scheduled next, choose scheduled = some next → next ∈ scheduled

private theorem earlier_cases (best : Option ScheduledTick) (tick : ScheduledTick) :
    earlier best tick = some tick ∨ earlier best tick = best := by
  unfold earlier
  cases best with
  | none => exact .inl rfl
  | some chosen =>
      dsimp only
      split
      · exact .inl rfl
      · exact .inr rfl

private theorem mem_of_foldl_earlier {rest : List ScheduledTick} {best : Option ScheduledTick}
    {next : ScheduledTick} (picked : rest.foldl earlier best = some next) :
    next ∈ rest ∨ best = some next := by
  induction rest generalizing best with
  | nil => exact .inr picked
  | cons tick rest induction =>
      rcases induction picked with later | first
      · exact .inl (List.mem_cons_of_mem _ later)
      · rcases earlier_cases best tick with same | same
        · cases same.symm.trans first
          exact .inl List.mem_cons_self
        · exact .inr (same.symm.trans first)

private theorem earliest?_picksScheduled : PicksScheduled earliest? := by
  intro scheduled next picked
  rcases mem_of_foldl_earlier picked with member | absurd
  · exact member
  · cases absurd

theorem earliestBy?_picksScheduled (limit : Float) : PicksScheduled (earliestBy? limit) := by
  intro scheduled next picked
  exact (List.mem_filter.mp (earliest?_picksScheduled _ next picked)).1


theorem fireAll_succ (invoke : Invoke) (choose : List ScheduledTick → Option ScheduledTick)
    (fuel : Nat) :
    fireAll invoke choose (fuel + 1) = Action.get >>= fun session : Session =>
      match choose session.loop.scheduled with
      | none => pure ()
      | some next => (do fire invoke next; drain invoke fuel) >>= fun _ =>
          fireAll invoke choose fuel := by
  funext session
  rw [fireAll, Action.get_bind_apply]
  dsimp only
  cases choose session.loop.scheduled with
  | none => rfl
  | some next =>
      dsimp only
      generalize (do fire invoke next; drain invoke fuel : Action Session Unit) = first
      rw [Action.bind_apply]
      rcases first session with ⟨outcome, after⟩
      cases outcome <;> rfl

theorem fireAll_moves (moving : Invoke.Moves invoke)
    {choose : List ScheduledTick → Option ScheduledTick} (picks : PicksScheduled choose)
    (fuel : Nat) :
    Moves since session (fireAll invoke choose fuel) := by
  induction fuel generalizing session with
  | zero => exact .exhausted
  | succ fuel induction =>
      rw [fireAll_succ]
      apply Moves.get
      split
      · exact .pure ()
      · rename_i next picked
        refine .seq ?_ fun _ _ => induction
        exact (fire_moves moving (picks _ next picked)).seq fun _ _ => drain_moves moving fuel

theorem advance_moves (moving : Invoke.Moves invoke) (fuel : Nat) (seconds : Float) :
    Moves since session (advance invoke fuel seconds) := by
  apply Moves.get
  apply (drain_moves moving fuel).seq
  intro _ drained
  apply (fireAll_moves moving (earliestBy?_picksScheduled _) fuel).seq
  intro _ fired
  exact .of_change (.timePassed _)

end RpcSession.Session
