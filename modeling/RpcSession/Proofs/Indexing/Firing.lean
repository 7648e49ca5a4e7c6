import RpcSession.Proofs.Indexing.Ticking

/-!
# Ticks of walks on the loop

The loop fires a tick, runs the callback of its timer and schedules the next one. Of a walk, that
is one more file and, if it is the last on a live session, the call at the end. A tick comes back
whenever the peer and what is called at the end do.
-/

namespace RpcSession.Session

variable {start session after : Session} {index : ℕ} {token : ℤ} {files reached : ℕ} {fuel : ℕ}
  {timer : Timer} {said : List Mark} {onFinish : Option Program}

/-! ## Ticks on the loop

A walk that has waited for its tick is in the middle of it when the tick has fired. What the
callback does then, and what the end of the tick does, keeps every walk on its course. -/

theorem guarded_state (callback : Action Session Unit) (session : Session) :
    (guarded callback session).2 = (callback session).2 ∨
      ∃ failure, (guarded callback session).2 =
        (callback session).2.noting (.loopFailed failure) := by
  rw [guarded, Action.bind_apply, Action.attempt]
  rcases callback session with ⟨outcome, after⟩
  cases outcome with
  | value value => exact .inl rfl
  | failed failure => exact .inr ⟨failure, rfl⟩
  | exhausted => exact .inl rfl

theorem guarded_goes {own : ℕ → ℤ → Prop} {callback : Action Session Unit}
    (goes : Goes own start (callback session).2) :
    Goes own start (guarded callback session).2 := by
  rcases guarded_state callback session with same | ⟨failure, same⟩ <;> rw [same]
  · exact goes
  · exact goes.trans (goes.onCourse.aside (.noting _ rfl)).of_nobody

theorem guarded_keeps {callback : Action Session Unit} (keeps : Keeps session callback) :
    Keeps session (guarded callback) := fun onCourse => guarded_goes (keeps onCourse)

variable {tick : ScheduledTick}

theorem firing_of_found (found : session.timer? tick.timer = some timer) :
    session.firing tick = (session.clearing tick).noting (.ticked tick.timer) ∧
      (session.firing tick).timer? tick.timer =
        some { timer with pending := none, ticks := timer.ticks + 1 } := by
  rcases session.firing_cases tick with ⟨_, missing⟩ | ⟨same, _⟩
  · rw [found] at missing
    cases missing
  · refine ⟨same, ?_⟩
    have cleared := session.timer?_clearing tick tick.timer
    rw [found] at cleared
    rw [same]
    exact cleared.trans (congrArg some (if_pos rfl))

theorem firing_clocked (clocked : Clocked session) (due : tick ∈ session.loop.scheduled) :
    Clocked (session.firing tick) := by
  rcases session.firing_cases tick with ⟨same, _⟩ | ⟨same, _⟩ <;> rw [same]
  · exact clocked.clearing due
  · exact (clocked.clearing due).noting _

theorem Waiting.firing {progress : Progress}
    (waiting : session.Waiting tick.timer token files reached timer progress)
    (onCourse : OnCourse session) (tracks : session.Tracks tick.timer token files)
    (due : tick ∈ session.loop.scheduled) :
    Mid session (session.firing tick) tick.timer token files
      { timer with pending := none, ticks := reached + 1 }
      (Walk.way token files reached ++ (session.closing ++ [.ticked])) := by
  rcases firing_of_found waiting.found with ⟨same, fired⟩
  rw [waiting.ticks] at fired
  have still : (session.firing tick).ticksOf tick.timer = [] := by
    rcases waiting.scheduled with ⟨order, time, _, scheduled⟩
    have member : tick ∈ session.ticksOf tick.timer :=
      List.mem_filter.mpr ⟨due, beq_self_eq_true _⟩
    rw [scheduled] at member
    rw [same]
    change List.filter _ (List.filter _ session.loop.scheduled) = []
    rw [List.filter_comm, ← ticksOf, scheduled, List.mem_singleton.mp member]
    simp
  have marks : (session.firing tick).marks tick.timer token =
      Walk.way token files reached ++ (session.closing ++ [.ticked]) := by
    have marked : (Event.ticked tick.timer).mark? tick.timer token = some .ticked := if_pos rfl
    rw [same, marks_noting marked, ← List.append_assoc]
    exact congrArg (· ++ _) waiting.marks
  have spares : Spares (ofWalk tick.timer token) session (session.firing tick) :=
    (Spares.firing onCourse.clocked due).of_index
  have standing : (session.firing tick).Standing tick.timer token files := by
    refine .resting fired rfl still ?_
    rw [marks, spares.stopped, closing]
    cases session.lifecycle.stopped with
    | true => exact .late waiting.more ⟨[.returned], rfl⟩
    | false =>
        refine .between (Walk.prefix_way_append_ticked waiting.more) fun other less => ?_
        simp
        omega
  exact ⟨onCourse.own tracks spares (firing_clocked onCourse.clocked due) standing,
    (Tracks.congr spares.callback?).mpr tracks, fired, rfl, still, marks⟩

theorem Waiting.held_firing {progress : Progress}
    (waiting : session.Waiting index token files reached timer progress) (tick : ScheduledTick) :
    (session.firing tick).progress? token = some progress := by
  rcases session.firing_cases tick with ⟨same, _⟩ | ⟨same, _⟩ <;> rw [same] <;>
    exact waiting.held

theorem Tracks.calls (tracks : session.Tracks index token files)
    (found : session.timer? index = some timer) :
    ∃ onFinish, timer.callback = .indexing token files onFinish := by
  rcases tracks with ⟨_, _, onFinish, callback⟩
  rw [callback?, found] at callback
  exact ⟨onFinish, Option.some.inj callback⟩

/-- What a tick of a walk does before the call at its end, from the moment at which it fires. -/
theorem Waiting.indexed {progress : Progress}
    (waiting : session.Waiting tick.timer token files reached timer progress)
    (onCourse : OnCourse session) (tracks : session.Tracks tick.timer token files)
    (due : tick ∈ session.loop.scheduled) (fuel : ℕ) :
    Indexed session (session.firing tick) fuel tick.timer token files reached
      { timer with pending := none, ticks := reached + 1 }
      (indexFile (run fuel) tick.timer token files none (reached + 1) (session.firing tick)) := by
  have mid := waiting.firing onCourse tracks due
  have stopped : (session.firing tick).lifecycle.stopped = session.lifecycle.stopped :=
    (Spares.firing onCourse.clocked due).stopped
  rw [closing] at mid
  cases live : session.lifecycle.stopped with
  | true =>
      rw [live] at mid
      exact mid.indexed_of_stopped (run fuel) waiting.more (stopped.trans live)
  | false =>
      rw [live] at mid
      exact mid.indexed_of_live waiting.more tracks.2.1 (stopped.trans live)
        (waiting.held_firing tick) waiting.unended waiting.title

/-- The call at the end belongs to the tick that fires, apart from all else that it does. -/
theorem Waiting.fire_eq {progress : Progress}
    (waiting : session.Waiting tick.timer token files reached timer progress)
    (onCourse : OnCourse session) (tracks : session.Tracks tick.timer token files)
    (due : tick ∈ session.loop.scheduled)
    (calls : timer.callback = .indexing token files onFinish) (fuel : ℕ) :
    fire (run fuel) tick session = guarded (do
      let outcome ← Action.attempt (do
        indexFile (run fuel) tick.timer token files none (reached + 1)
        callAtEnd (run fuel) (session.calledAtEnd files reached onFinish))
      finishTick tick.timer outcome) (session.firing tick) := by
  have spares := Spares.firing onCourse.clocked due
  have quiet : ∀ message, ((session.firing tick).outbound message).IsQuiet := by
    rw [spares.outbound]
    exact onCourse.quiet
  have same := indexFile_eq_callAtEnd fuel quiet (waiting.held_firing tick) waiting.unended
    waiting.title waiting.more tracks.2.1 tick.timer onFinish
  rw [calledAtEnd, spares.stopped, ← calledAtEnd] at same
  have fired := (firing_of_found waiting.found).2
  rw [waiting.ticks] at fired
  rw [fire_apply, fired]
  apply guarded_congr
  change (Action.attempt (runTimerCallback (run fuel) tick.timer timer.callback (reached + 1)) >>=
    finishTick tick.timer) (session.firing tick) = _
  rw [calls]
  exact attempt_bind_congr same _

theorem mem_ticksOf (due : tick ∈ session.loop.scheduled) : tick ∈ session.ticksOf tick.timer :=
  List.mem_filter.mpr ⟨due, beq_self_eq_true _⟩

theorem OnCourse.waiting_of_due (onCourse : OnCourse session)
    (tracks : session.Tracks tick.timer token files) (due : tick ∈ session.loop.scheduled) :
    ∃ reached timer progress,
      session.Waiting tick.timer token files reached timer progress := by
  cases onCourse.standing _ _ _ tracks with
  | resting _ _ still =>
      have member := mem_ticksOf due
      rw [still] at member
      cases member
  | waiting waiting => exact ⟨_, _, _, waiting⟩

private theorem fire_keeps_of_tracks (keeping : Invoke.Keeps (run fuel))
    (due : tick ∈ session.loop.scheduled) (tracks : session.Tracks tick.timer token files) :
    Keeps session (fire (run fuel) tick) := by
  intro onCourse
  rcases onCourse.waiting_of_due tracks due with ⟨reached, timer, progress, waiting⟩
  refine Goes.of_waiting ?_ onCourse tracks (List.ne_nil_of_mem (mem_ticksOf due))
  rcases tracks.calls waiting.found with ⟨onFinish, calls⟩
  rw [waiting.fire_eq onCourse tracks due calls]
  refine guarded_goes ?_
  have indexed := waiting.indexed onCourse tracks due fuel
  have finished := indexed.finished keeping waiting.going rfl onFinish
  rwa [calledAtEnd, (Spares.firing onCourse.clocked due).stopped, ← calledAtEnd] at finished

private theorem fire_keeps_of_strays (keeping : Invoke.Keeps (run fuel))
    (due : tick ∈ session.loop.scheduled) (strays : session.Strays tick.timer) :
    Keeps session (fire (run fuel) tick) := by
  intro onCourse
  rcases strays.found with ⟨timer, found⟩
  have fired := (firing_of_found found).2
  have goes := onCourse.astray strays (.firing onCourse.clocked due)
    (firing_clocked onCourse.clocked due)
  have astray := strays.later goes.later
  have callback : (session.firing tick).callback? tick.timer = some timer.callback := by
    rw [callback?, fired]
    rfl
  rw [fire_apply, fired]
  refine goes.trans (guarded_keeps ?_ goes.onCourse)
  refine Keeps.bind (Keeps.attempt ?_) fun outcome after _ goes =>
    finishTick_keeps (astray.later goes.later) outcome
  dsimp only
  cases calls : timer.callback with
  | host program => exact (keeping program _).seq fun _ _ => .pure ()
  | indexing token files onFinish =>
      rw [calls] at callback
      exact indexFile_keeps keeping callback astray _ _

theorem strays_or_tracks {callback : TimerCallback}
    (found : session.callback? index = some callback) :
    session.Strays index ∨ ∃ token files, session.Tracks index token files := by
  cases callback with
  | host program => exact .inl (Allows.strays ⟨program, found⟩)
  | indexing token number onFinish =>
      by_cases counted : ∃ files : ℕ, number = files ∧ 0 < files ∧ files ≤ mostFiles
      · rcases counted with ⟨files, rfl, any, few⟩
        exact .inr ⟨token, files, any, few, onFinish, found⟩
      · refine .inl ⟨_, found, fun token files _ same few => counted ⟨files, ?_, few⟩⟩
        cases same
        rfl

theorem fire_keeps (keeping : Invoke.Keeps (run fuel)) (due : tick ∈ session.loop.scheduled) :
    Keeps session (fire (run fuel) tick) := by
  intro onCourse
  rcases Option.isSome_iff_exists.mp (onCourse.clocked.owned tick due) with ⟨timer, found⟩
  have callback : session.callback? tick.timer = some timer.callback := by
    rw [callback?, found]
    rfl
  rcases strays_or_tracks callback with strays | ⟨token, files, tracks⟩
  · exact fire_keeps_of_strays keeping due strays onCourse
  · exact fire_keeps_of_tracks keeping due tracks onCourse

/-! ## Ticks that come back

Whether a tick comes back depends on its peer and on what it calls at the end, for nothing else
in it can be cut short. -/

private theorem finishedTicks_finishTick (found : session.timer? index = some timer)
    (outcome : Except Failure Unit) :
    (finishTick index outcome session).2.finishedTicks index = session.finishedTicks index + 1 := by
  have noted : (session.noting (.tickReturned index timer.isRunning outcome)).finishedTicks index =
      session.finishedTicks index + 1 := List.countP_cons_of_pos (beq_self_eq_true index)
  rw [finishTick_apply found, ← noted]
  rcases session.returning_cases index timer outcome with same | same | ⟨entry, same⟩ <;> rw [same]
  · rfl
  · rfl

private theorem finishTick_unexhausted (found : session.timer? index = some timer)
    (outcome : Except Failure Unit) : (finishTick index outcome session).1 ≠ .exhausted := by
  rw [finishTick, Action.get_bind_apply, Action.bind_of_value (record_apply _ _), found]
  cases outcome with
  | ok =>
      dsimp only
      split <;> (intro cut; cases cut)
  | error failure =>
      dsimp only
      split
      · have idle : ((session.noting (.tickReturned index timer.isRunning (.error failure))).noting
            (.logged (tickFailureEntry failure))).timer? index = some timer := found
        change (stopTimer index ((session.noting (.tickReturned index timer.isRunning
          (.error failure))).noting (.logged (tickFailureEntry failure)))).1 ≠ .exhausted
        rw [stopTimer_apply idle]
        intro cut
        cases cut
      · intro cut
        cases cut

private theorem guarded_of_unexhausted {callback : Action Session Unit}
    (came : (callback session).1 ≠ .exhausted) (index : ℕ) :
    ∃ after, guarded callback session = (.value (), after) ∧
      after.finishedTicks index = (callback session).2.finishedTicks index := by
  rw [guarded, Action.bind_apply, Action.attempt]
  generalize callback session = result at came
  rcases result with ⟨outcome, after⟩
  cases outcome with
  | value value => exact ⟨after, rfl, rfl⟩
  | failed failure => exact ⟨after.noting (.loopFailed failure), rfl, rfl⟩
  | exhausted => exact absurd rfl came

private theorem attempt_of_unexhausted {α : Type} {action : Action Session α}
    (came : (action session).1 ≠ .exhausted) :
    ∃ outcome, Action.attempt action session = (.value outcome, (action session).2) := by
  rcases Action.attempt_cases action session with cut | returned
  · rw [Action.attempt] at cut
    generalize action session = result at came cut
    rcases result with ⟨outcome, after⟩
    cases outcome with
    | exhausted => exact absurd rfl came
    | _ => cases cut
  · exact returned

namespace Indexed

variable {fired : Session} {body : Action Session Unit}

private theorem finishedTicks (indexed : Indexed start fired fuel index token files reached timer
      (body fired)) (keeping : Invoke.Keeps (run fuel)) (onFinish : Option Program) :
    let called := fired.calledAtEnd files reached onFinish
    let result := (do body; callAtEnd (run fuel) called : Action Session Unit) fired
    result.1 ≠ .exhausted →
      result.2.finishedTicks index = reached ∧ ∃ timer, result.2.timer? index = some timer := by
  intro called result came
  have count {said : List Mark} {state : Session} {timer : Timer}
      (mid : Mid start state index token files timer said)
      (counted : said.countP Mark.isReturned = reached) :
      state.finishedTicks index = reached ∧ ∃ timer, state.timer? index = some timer := by
    rw [← countP_marks state index token, mid.marks]
    exact ⟨counted, timer, mid.found⟩
  generalize ran : body fired = middle at indexed
  cases indexed with
  | @cut after =>
      have cut : result = (.exhausted, after) := by
        simp only [result]
        rw [Action.bind_apply, ran]
      rw [cut] at came
      exact absurd rfl came
  | @brokenOff after stopped _ _ mid =>
      have nothing : called = none := by simp [called, calledAtEnd, stopped]
      have same : result = callAtEnd (run fuel) called after := Action.bind_of_value ran
      rw [same, nothing]
      exact count mid (by simp [Walk.countP_way, Mark.isReturned])
  | @reported after _ more _ mid =>
      have nothing : called = none := by simp [called, calledAtEnd, Nat.ne_of_lt more]
      have same : result = callAtEnd (run fuel) called after := Action.bind_of_value ran
      rw [same, nothing]
      exact count mid (by simp [Walk.countP_way, Mark.isReturned])
  | @completed after _ live all mid =>
      have same : result = callAtEnd (run fuel) called after := Action.bind_of_value ran
      rw [same]
      refine count (mid.called live (callAtEnd_keeps keeping called)) ?_
      generalize (callAtEnd (run fuel) called after).2 = later
      rw [closing, ← all]
      split <;> simp [Walk.countP_way, Walk.last, Mark.isReturned]

private theorem unexhausted (indexed : Indexed start fired fuel index token files reached timer
      (body fired)) (records : fired.RecordsMessages fuel) {onFinish : Option Program}
    (returning : ∀ completed, body fired = (.value (), completed) →
      (callAtEnd (run fuel) onFinish completed).1 ≠ .exhausted) :
    ((do body; callAtEnd (run fuel) onFinish : Action Session Unit) fired).1 ≠ .exhausted := by
  generalize came : body fired = result at indexed
  cases indexed with
  | cut heedless => exact absurd records heedless
  | brokenOff | reported | completed =>
      rw [Action.bind_of_value came]
      exact returning _ came

end Indexed

theorem Waiting.finishedTicks {progress : Progress}
    (waiting : session.Waiting index token files reached timer progress) :
    session.finishedTicks index = reached := by
  rw [← countP_marks session index token, waiting.marks, closing]
  split <;> simp [Walk.countP_way, Mark.isReturned]

/-- Whether a tick comes back depends on what it does up to the end of its call at the end only. -/
theorem Waiting.fire_cases {progress : Progress}
    (waiting : session.Waiting tick.timer token files reached timer progress)
    (onCourse : OnCourse session) (tracks : session.Tracks tick.timer token files)
    (due : tick ∈ session.loop.scheduled)
    (calls : timer.callback = .indexing token files onFinish) (keeping : Invoke.Keeps (run fuel)) :
    let action : Action Session Unit := do
      indexFile (run fuel) tick.timer token files none (reached + 1)
      callAtEnd (run fuel) (session.calledAtEnd files reached onFinish)
    (action (session.firing tick)).1 = .exhausted ∧
        (fire (run fuel) tick session).1 = .exhausted ∨
      (action (session.firing tick)).1 ≠ .exhausted ∧
        ∃ after, fire (run fuel) tick session = (.value (), after) ∧
          after.finishedTicks tick.timer = reached + 1 := by
  intro action
  have same : fire (run fuel) tick session =
      guarded (Action.attempt action >>= finishTick tick.timer) (session.firing tick) :=
    waiting.fire_eq onCourse tracks due calls fuel
  by_cases cut : (action (session.firing tick)).1 = .exhausted
  · refine .inl ⟨cut, ?_⟩
    have ran : action (session.firing tick) = (.exhausted, (action (session.firing tick)).2) :=
      Prod.ext cut rfl
    rw [same, guarded, Action.bind_apply, Action.attempt, Action.bind_apply, Action.attempt, ran]
  · refine .inr ⟨cut, ?_⟩
    have indexed := waiting.indexed onCourse tracks due fuel
    have finished := indexed.finishedTicks keeping onFinish
    rw [calledAtEnd, (Spares.firing onCourse.clocked due).stopped, ← calledAtEnd] at finished
    rcases finished cut with ⟨counted, last, found⟩
    rcases attempt_of_unexhausted cut with ⟨outcome, attempted⟩
    have ended : (Action.attempt action >>= finishTick tick.timer) (session.firing tick) =
        finishTick tick.timer outcome (action (session.firing tick)).2 :=
      Action.bind_of_value attempted
    have came := finishTick_unexhausted found outcome
    rw [← ended] at came
    rcases guarded_of_unexhausted came tick.timer with ⟨after, back, counts⟩
    refine ⟨after, same.trans back, ?_⟩
    rw [counts, ended, finishedTicks_finishTick found, counted]

/-- Until the last file, a tick that came back is followed by another after the interval. -/
theorem Waiting.follows {progress : Progress}
    (waiting : session.Waiting tick.timer token files reached timer progress)
    (onCourse : OnCourse session) (tracks : session.Tracks tick.timer token files)
    (due : tick ∈ session.loop.scheduled)
    (calls : timer.callback = .indexing token files onFinish)
    (live : session.lifecycle.stopped = false) (more : reached + 1 < files)
    (came : fire (run fuel) tick session = (.value (), after)) :
    ∃ order, after.ticksOf tick.timer =
      [⟨order, after.loop.now + timer.interval, tick.timer⟩] := by
  have indexed := waiting.indexed onCourse tracks due fuel
  have nothing : session.calledAtEnd files reached onFinish = none := by
    simp [calledAtEnd, Nat.ne_of_lt more]
  rw [waiting.fire_eq onCourse tracks due calls, nothing] at came
  generalize ran : indexFile (run fuel) tick.timer token files none (reached + 1)
    (session.firing tick) = result at indexed
  cases indexed with
  | cut _ _ =>
      rw [guarded, Action.bind_apply, Action.attempt, Action.bind_apply, Action.attempt,
        Action.bind_apply, ran] at came
      cases came
  | brokenOff stopped _ _ _ =>
      rw [(Spares.firing onCourse.clocked due).stopped, live] at stopped
      cases stopped
  | completed _ _ all _ => exact absurd all (Nat.ne_of_lt more)
  | @reported middle _ _ _ mid =>
      let callback : Action Session Unit := Action.attempt (do
        indexFile (run fuel) tick.timer token files none (reached + 1)
        callAtEnd (run fuel) none) >>= finishTick tick.timer
      have ended : callback (session.firing tick) =
          (Action.attempt (callAtEnd (run fuel) none) >>= finishTick tick.timer) middle :=
        attempt_bind_of_value ran _ _
      have last : (callback (session.firing tick)).2 = (finishTick tick.timer (.ok ()) middle).2 :=
        congrArg Prod.snd ended
      have back : (guarded callback (session.firing tick)).2 = after := congrArg Prod.snd came
      rcases mid.finishTick_of_going waiting.going with ⟨same, scheduled⟩
      rw [same] at last scheduled
      rcases guarded_state callback (session.firing tick) with quiet | ⟨failure, noted⟩
      · rw [← back, quiet, last]
        exact ⟨_, scheduled⟩
      · rw [← back, noted, last]
        exact ⟨_, scheduled⟩

theorem Waiting.ends {progress : Progress}
    (waiting : session.Waiting tick.timer token files reached timer progress)
    (onCourse : OnCourse session) (tracks : session.Tracks tick.timer token files)
    (due : tick ∈ session.loop.scheduled) (live : session.lifecycle.stopped = false)
    (last : reached + 1 = files) {completed : Session}
    (came : indexFile (run fuel) tick.timer token files none files (session.firing tick) =
      (.value (), completed)) :
    completed.marks tick.timer token = Walk.way token files (files - 1) ++ Walk.last token files ∧
      completed.ticksOf tick.timer = [] ∧
      ∀ timer, completed.timer? tick.timer = some timer →
        timer.stopped = true ∧ timer.pending = none := by
  have indexed := waiting.indexed onCourse tracks due fuel
  rw [last, came] at indexed
  cases indexed with
  | brokenOff stopped =>
      rw [(Spares.firing onCourse.clocked due).stopped, live] at stopped
      cases stopped
  | reported _ more => exact absurd last (Nat.ne_of_lt more)
  | completed _ _ _ mid =>
      refine ⟨mid.marks, mid.still, fun timer foundToo => ?_⟩
      cases mid.found.symm.trans foundToo
      exact ⟨rfl, rfl⟩

theorem Waiting.returns {progress : Progress}
    (waiting : session.Waiting tick.timer token files reached timer progress)
    (onCourse : OnCourse session) (tracks : session.Tracks tick.timer token files)
    (due : tick ∈ session.loop.scheduled)
    (calls : timer.callback = .indexing token files onFinish)
    (keeping : Invoke.Keeps (run fuel)) (records : session.RecordsMessages fuel)
    (comes : session.lifecycle.stopped = false → reached + 1 = files →
      ∀ completed, indexFile (run fuel) tick.timer token files none files (session.firing tick) =
        (.value (), completed) → (callAtEnd (run fuel) onFinish completed).1 ≠ .exhausted) :
    ∃ after, fire (run fuel) tick session = (.value (), after) := by
  have indexed := waiting.indexed onCourse tracks due fuel
  have heeding := records.congr (Spares.firing onCourse.clocked due).outbound
  have returning : ∀ completed,
      indexFile (run fuel) tick.timer token files none (reached + 1) (session.firing tick) =
        (.value (), completed) →
      (callAtEnd (run fuel) (session.calledAtEnd files reached onFinish) completed).1 ≠
        .exhausted := by
    intro completed came
    rw [calledAtEnd]
    split
    · rename_i last
      rw [last.2] at came
      exact comes last.1 last.2 completed came
    · intro cut
      cases cut
  rcases waiting.fire_cases onCourse tracks due calls keeping with
    ⟨cut, _⟩ | ⟨_, after, same, _⟩
  · exact absurd cut (indexed.unexhausted heeding returning)
  · exact ⟨after, same⟩

end RpcSession.Session
