import RpcSession.Proofs.Indexing.Strays

/-!
# Ticks of walks

A tick takes its own walk one file further or to the end, or breaks it off if the session is
terminated. Every other walk stays on its course meanwhile, whatever is called at the end.
-/

namespace RpcSession.Session

variable {start session after : Session} {index : ℕ} {token : ℤ} {files reached : ℕ} {fuel : ℕ}
  {timer : Timer} {said : List Mark}

def ofWalk (index : ℕ) (token : ℤ) : ℕ → ℤ → Prop :=
  fun other label => other = index ∨ label = token

theorem Spares.of_index (spares : Spares (ofTimer index) session after) :
    Spares (ofWalk index token) session after := spares.mono fun _ _ => .inl

private theorem Spares.of_label (spares : Spares (ofToken token) session after) :
    Spares (ofWalk index token) session after := spares.mono fun _ _ => .inr

theorem OnCourse.eq_of_own (onCourse : OnCourse session)
    (tracks : session.Tracks index token files) {other : ℕ} {label : ℤ} {number : ℕ}
    (tracksToo : session.Tracks other label number) (own : ofWalk index token other label) :
    other = index ∧ label = token ∧ number = files := by
  rcases tracks with ⟨_, _, onFinish, found⟩
  rcases tracksToo with ⟨_, _, onFinishOther, foundToo⟩
  have same : other = index := by
    rcases own with same | rfl
    · exact same
    · exact onCourse.alone _ _ _ _ _ _ _ foundToo found
  subst same
  cases foundToo.symm.trans found
  exact ⟨rfl, rfl, rfl⟩

theorem OnCourse.own (onCourse : OnCourse session) (tracks : session.Tracks index token files)
    (spares : Spares (ofWalk index token) session after) (clocked : Clocked after)
    (standing : after.Standing index token files) : Goes (ofWalk index token) session after := by
  have within : index < after.timers.length := by
    rcases tracks with ⟨_, _, _, found⟩
    rw [spares.length]
    exact lt_of_callback? found
  have taken : token < after.identifiers.next :=
    Int.lt_of_lt_of_le (onCourse.taken_of_tracks tracks) spares.next
  refine onCourse.spared spares clocked (fun other label own => ?_)
    fun other label number tracksToo own => ?_
  · rcases own with rfl | rfl
    · exact .inl within
    · exact .inr taken
  · rw [Tracks.congr spares.callback?] at tracksToo
    rcases onCourse.eq_of_own tracks tracksToo own with ⟨rfl, rfl, rfl⟩
    exact standing

/-- Whatever a walk does in a tick that it waited for, no walk without a tick is touched. -/
theorem Goes.of_waiting (goes : Goes (ofWalk index token) session after)
    (onCourse : OnCourse session) (tracks : session.Tracks index token files)
    (waiting : session.ticksOf index ≠ []) : Goes nobody session after := by
  refine ⟨goes.onCourse, goes.later.outbound, goes.later.stopped, goes.later.next,
    goes.later.callbacks, fun other label number tracksToo _ still => ?_⟩
  refine goes.later.settled other label number tracksToo (fun own => waiting ?_) still
  rw [← (onCourse.eq_of_own tracks tracksToo own).1]
  exact still

/-! ## Ticks and a quiet peer -/

/-- A tick on a live session reports one more file to a quiet peer, and goes on from there whatever
is to be called at the end. -/
theorem indexFile_of_quiet (fuel : ℕ) (quiet : ∀ message, (session.outbound message).IsQuiet)
    (live : session.lifecycle.stopped = false) {progress : Progress}
    (held : session.progress? token = some progress) (unended : progress.isEnded = false)
    (title : progress.title = .string "indexing") (more : reached < files) (index : ℕ) :
    let report := Walk.report token files (reached + 1)
    ∃ told, Undisturbed (session.telling report) told ∧ told.progress? token = some report ∧
      ((∀ onFinish, indexFile (run fuel) index token files onFinish (reached + 1) session =
          (if reachedPercentage (reached + 1) files = 100 then
            endWalk (run fuel) index token files (reached + 1) onFinish
          else pure () : Action Session Unit) told) ∨
        ¬session.RecordsMessages fuel ∧
          ∀ onFinish, indexFile (run fuel) index token files onFinish (reached + 1) session =
            (.exhausted, told)) := by
  intro report
  have any : 0 < files := Nat.zero_lt_of_lt more
  have first (onFinish : Option Program) :
      indexFile (run fuel) index token files onFinish (reached + 1) session =
        ((do setProgress report; emit (run fuel) report : Action Session Unit) >>= fun _ =>
          afterFile (run fuel) index token files onFinish) session := by
    rw [bind_assoc]
    exact indexFile_of_live live held unended title any more index onFinish
  rcases setProgress_emit_of_quiet fuel quiet live report with ⟨told, undisturbed, same⟩
  have heldToo : told.progress? token = some report := by
    rw [progress?, undisturbed.unchanged.2.2.2]
    exact progress?_reported held files (reached + 1)
  refine ⟨told, undisturbed, heldToo, same.imp (fun same onFinish => ?_) fun cut =>
    ⟨not_recordsMessages_of_cut live cut, fun onFinish => ?_⟩⟩
  · rw [first, Action.bind_of_value same]
    exact afterFile_of_reported heldToo index onFinish
  · rw [first, Action.bind_apply, cut]

/-! ## In the middle of a tick

From the moment at which it fires until it comes back, a tick adds to the marks of its walk, and
no other walk is touched. -/

/-- A session in the middle of a tick of a walk, which has come in another session. -/
structure Mid (start session : Session) (index : ℕ) (token : ℤ) (files : ℕ) (timer : Timer)
    (said : List Mark) : Prop where
  goes : Goes (ofWalk index token) start session
  tracks : session.Tracks index token files
  found : session.timer? index = some timer
  idle : timer.pending = none
  still : session.ticksOf index = []
  marks : session.marks index token = said

namespace Mid

variable (mid : Mid start session index token files timer said)

include mid

theorem lawful : Walk.Lawful token files session.lifecycle.stopped said := by
  cases mid.goes.onCourse.standing index token files mid.tracks with
  | waiting waiting =>
      rcases waiting.scheduled with ⟨_, _, _, scheduled⟩
      rw [mid.still] at scheduled
      cases scheduled
  | resting _ _ _ lawful =>
      rw [← mid.marks]
      exact lawful

theorem step {changed : Timer} {more : List Mark}
    (spares : Spares (ofWalk index token) session after) (clocked : Clocked after)
    (found : after.timer? index = some changed) (idle : changed.pending = none)
    (still : after.ticksOf index = []) (marks : after.marks index token = more)
    (lawful : Walk.Lawful token files session.lifecycle.stopped more) :
    Mid start after index token files changed more := by
  have standing : after.Standing index token files := by
    refine .resting found idle still ?_
    rw [marks, spares.stopped]
    exact lawful
  refine ⟨?_, ?_, found, idle, still, marks⟩
  · exact mid.goes.trans (mid.goes.onCourse.own mid.tracks spares clocked standing)
  · exact (Tracks.congr spares.callback?).mpr mid.tracks

theorem aside (aside : Aside session after) : Mid start after index token files timer said := by
  have spares : Spares (ofWalk index token) session after :=
    (Spares.aside aside).mono fun _ _ => False.elim
  refine mid.step spares ?_ ?_ mid.idle ?_ ?_ mid.lawful
  · exact mid.goes.onCourse.clocked.aside aside.timers aside.scheduled aside.nextOrder
  · rw [(Spares.aside aside).timer index token id, mid.found]
  · rw [(Spares.aside aside).ticks index token id, mid.still]
  · rw [(Spares.aside aside).marks index token id, mid.marks]

theorem noting {event : Event} {mark : Mark} (marked : event.mark? index token = some mark)
    (own : ∀ other label, ¬ofWalk index token other label → event.mark? other label = none)
    (lawful : Walk.Lawful token files session.lifecycle.stopped (said ++ [mark])) :
    Mid start (session.noting event) index token files timer (said ++ [mark]) := by
  refine mid.step (.noting session own) (mid.goes.onCourse.clocked.noting _) mid.found mid.idle
    mid.still ?_ lawful
  rw [marks_noting marked, mid.marks]

theorem stopping : Mid start (session.stopping index timer) index token files
    { timer with stopped := true, pending := none } said := by
  have clocked := mid.goes.onCourse.clocked
  refine mid.step (Spares.stopping clocked mid.found).of_index (clocked.stopping mid.found) ?_ rfl
    ?_ ?_ mid.lawful
  · rw [timer?_stopping, mid.found]
    simp
  · rw [ticksOf, scheduled_stopping, mid.idle]
    exact (congrArg _ (List.filter_eq_self.mpr fun _ _ => rfl)).trans mid.still
  · have history : (session.stopping index timer).history =
        [.timerStopped index] ++ session.history := rfl
    rw [marks_of_unmarked history (by simp [Event.isMarking]), mid.marks]

private theorem completing (lawful : Walk.Lawful token files session.lifecycle.stopped
      (said ++ [.indexed])) :
    Mid start (session.completing index timer token files) index token files
      { timer with stopped := true, pending := none } (said ++ [.indexed]) := by
  refine Mid.noting (mid.stopping.aside (.noting _ rfl)) (if_pos rfl) ?_ lawful
  exact fun _ _ foreign => if_neg fun same => foreign (.inr same.symm)

theorem told {progress : Progress} (live : session.lifecycle.stopped = false)
    (own : progress.token = token)
    (undisturbed : Undisturbed (session.telling progress) after)
    (lawful : Walk.Lawful token files false (said ++ [.told progress])) :
    Mid start after index token files timer (said ++ [.told progress]) ∧
      after.lifecycle.stopped = false := by
  subst own
  have spares : Spares (ofToken progress.token) session (session.telling progress) :=
    (Spares.updating session progress).trans (.announcing _ _ progress) rfl
  have told : Mid start (session.telling progress) index progress.token files timer
      (said ++ [.told progress]) := by
    refine mid.step spares.of_label (mid.goes.onCourse.clocked.aside rfl rfl rfl) mid.found
      mid.idle mid.still ?_ (by rw [live]; exact lawful)
    exact (marks_announcing _ _ progress index).trans (congrArg (· ++ _) mid.marks)
  refine ⟨told.aside (.of_undisturbed undisturbed), ?_⟩
  rw [undisturbed.unchanged.2.1]
  exact live

/-! ## The end of a tick

The tick of a stopped timer just comes back. After that of a timer that goes on, the next one is
scheduled. -/

theorem returned (stopped : timer.stopped = true)
    (lawful : Walk.Lawful token files session.lifecycle.stopped (said ++ [.returned]))
    (outcome : Except Failure Unit) :
    Goes (ofWalk index token) start (finishTick index outcome session).2 := by
  have noted : Mid start (session.noting (.tickReturned index timer.isRunning outcome)) index token
      files timer (said ++ [.returned]) :=
    mid.noting (if_pos rfl) (fun _ _ foreign => if_neg fun same => foreign (.inl same.symm)) lawful
  rw [finishTick_apply mid.found, returning.eq_def]
  cases outcome with
  | ok =>
      dsimp only
      rw [if_pos stopped]
      exact noted.goes
  | error failure =>
      dsimp only
      split
      · exact (noted.aside (.noting _ rfl)).stopping.goes
      · exact noted.goes

theorem finishTick_of_going (going : timer.stopped = false) :
    (finishTick index (.ok ()) session).2 =
        (session.noting (.tickReturned index timer.isRunning (.ok ()))).scheduling index
          timer.interval ∧
      (finishTick index (.ok ()) session).2.ticksOf index =
        [⟨session.loop.nextOrder, session.loop.now + timer.interval, index⟩] := by
  have same : (finishTick index (.ok ()) session).2 =
      (session.noting (.tickReturned index timer.isRunning (.ok ()))).scheduling index
        timer.interval := by
    rw [finishTick_apply mid.found]
    exact if_neg (by simp [going])
  refine ⟨same, ?_⟩
  rw [same]
  change List.filter _ (session.loop.scheduled ++ [_]) = _
  rw [List.filter_append, ← ticksOf, mid.still]
  simp [Session.noting]

private theorem goesOn (on : said = Walk.way token files reached ++
      [.ticked, .told (Walk.report token files (reached + 1))])
    (live : session.lifecycle.stopped = false) (more : reached + 1 < files)
    (held : session.progress? token = some (Walk.report token files (reached + 1)))
    (going : timer.stopped = false) (ticks : timer.ticks = reached + 1) :
    Goes (ofWalk index token) start (finishTick index (.ok ()) session).2 := by
  have clocked := mid.goes.onCourse.clocked
  let event : Event := .tickReturned index timer.isRunning (.ok ())
  have marked : event.mark? index token = some .returned := if_pos rfl
  let noted := session.noting event
  rcases mid.finishTick_of_going going with ⟨same, scheduled⟩
  have found : (noted.scheduling index timer.interval).timer? index =
      some { timer with pending := some session.loop.nextOrder } := by
    have kept : noted.timer? index = some timer := mid.found
    rw [timer?_scheduling, kept]
    exact congrArg some (if_pos rfl)
  have marks : (noted.scheduling index timer.interval).marks index token =
      Walk.way token files (reached + 1) ++ session.closing := by
    have noted : noted.marks index token = said ++ [.returned] := by
      rw [marks_noting marked, mid.marks]
    rw [Walk.way_succ, Session.closing, live]
    refine Eq.trans noted ?_
    rw [on]
    simp [Walk.step]
  rw [same] at scheduled ⊢
  refine mid.goes.trans (mid.goes.onCourse.own mid.tracks ?_ ?_ ?_)
  · have noted : Spares (ofWalk index token) session noted :=
      .noting session fun _ _ foreign => if_neg fun same => foreign (.inl same.symm)
    exact noted.trans (Spares.scheduling _ index timer.interval).of_index rfl
  · exact (clocked.noting _).scheduling timer.interval mid.found going
  · exact .waiting
      ⟨more, found, ticks, going, ⟨_, _, rfl, scheduled⟩, held, rfl, rfl, marks⟩

theorem called (live : session.lifecycle.stopped = false) {action : Action Session Unit}
    (keeps : Keeps session action) :
    Mid start (action session).2 index token files timer (said ++ (action session).2.closing) := by
  have goes := keeps mid.goes.onCourse
  rcases goes.later.settled index token files mid.tracks id mid.still with ⟨same, still, marks⟩
  rw [live, if_neg (by simp), mid.marks] at marks
  exact ⟨mid.goes.trans goes.of_nobody, goes.later.tracks mid.tracks, same.trans mid.found,
    mid.idle, still, marks⟩

private theorem calling (on : said = Walk.way token files (files - 1) ++ Walk.last token files)
    (any : 0 < files) (live : session.lifecycle.stopped = false) (stopped : timer.stopped = true)
    {action : Action Session Unit} (keeps : Keeps session action) :
    Goes (ofWalk index token) start ((Action.attempt action >>= finishTick index) session).2 := by
  have called := mid.called live keeps
  rw [on] at called
  rw [Action.bind_apply]
  rcases Action.attempt_cases action session with cut | ⟨outcome, came⟩
  · rw [cut]
    exact called.goes
  · rw [came]
    refine called.returned stopped ?_ outcome
    generalize (action session).2 = after
    rw [closing]
    cases after.lifecycle.stopped with
    | true =>
        rw [if_pos rfl, List.append_assoc]
        exact .last
    | false =>
        rw [if_neg (by simp), List.append_nil, List.append_assoc,
          Walk.way_append_last (by omega)]
        refine .between (List.prefix_refl _) fun reached less => ?_
        rw [Walk.course, List.length_append, Walk.length_way]
        simp [Walk.last]
        omega

end Mid

/-! ## Up to the call at the end

A tick that has fired reports one more file, and the tick of the last file ends the walk. What is
to be called at the end comes when all that is done, and on a live session only. -/

/-- What the tick that follows on some files has done to its walk when it comes to the call at the
end, given the session in which it fired. It is cut short if the peer does not come back. -/
inductive Indexed (start fired : Session) (fuel index : ℕ) (token : ℤ) (files reached : ℕ)
    (timer : Timer) : Outcome Unit × Session → Prop
  | cut {after : Session} {said : List Mark} (heedless : ¬fired.RecordsMessages fuel)
      (mid : Mid start after index token files timer said) :
      Indexed start fired fuel index token files reached timer (.exhausted, after)
  | brokenOff {after : Session} (stopped : fired.lifecycle.stopped = true)
      (ended : after.lifecycle.stopped = true) (more : reached < files)
      (mid : Mid start after index token files { timer with stopped := true, pending := none }
        (Walk.way token files reached ++ [.terminated, .ticked])) :
      Indexed start fired fuel index token files reached timer (.value (), after)
  | reported {after : Session} (live : after.lifecycle.stopped = false)
      (more : reached + 1 < files)
      (held : after.progress? token = some (Walk.report token files (reached + 1)))
      (mid : Mid start after index token files timer (Walk.way token files reached ++
        [.ticked, .told (Walk.report token files (reached + 1))])) :
      Indexed start fired fuel index token files reached timer (.value (), after)
  | completed {after : Session} (alive : fired.lifecycle.stopped = false)
      (live : after.lifecycle.stopped = false) (all : reached + 1 = files)
      (mid : Mid start after index token files { timer with stopped := true, pending := none }
        (Walk.way token files (files - 1) ++ Walk.last token files)) :
      Indexed start fired fuel index token files reached timer (.value (), after)

/-- What the tick that follows on some files is to call at its end. -/
def calledAtEnd (session : Session) (files reached : ℕ) (onFinish : Option Program) :
    Option Program :=
  if session.lifecycle.stopped = false ∧ reached + 1 = files then onFinish else none

theorem endWalk_eq (invoke : Invoke) (index : ℕ) (token : ℤ) (files indexed : ℕ)
    (onFinish : Option Program) :
    endWalk invoke index token files indexed onFinish = (do
      endWalk invoke index token files indexed none
      callAtEnd invoke onFinish) := by
  cases onFinish <;> simp only [endWalk, bind_assoc, pure_bind] <;> rfl

theorem indexFile_eq_callAtEnd (fuel : ℕ) (quiet : ∀ message, (session.outbound message).IsQuiet)
    {progress : Progress} (held : session.progress? token = some progress)
    (unended : progress.isEnded = false) (title : progress.title = .string "indexing")
    (more : reached < files) (few : files ≤ mostFiles) (index : ℕ) (onFinish : Option Program) :
    indexFile (run fuel) index token files onFinish (reached + 1) session = (do
      indexFile (run fuel) index token files none (reached + 1)
      callAtEnd (run fuel) (session.calledAtEnd files reached onFinish)
        : Action Session Unit) session := by
  cases live : session.lifecycle.stopped with
  | true =>
      have ran (onFinish : Option Program) :
          indexFile (run fuel) index token files onFinish (reached + 1) session =
            stopTimer index session := by
        rw [indexFile.eq_def, Action.get_bind_apply, isTerminated, if_pos live]
      have nothing : session.calledAtEnd files reached onFinish = none := by
        simp [calledAtEnd, live]
      rw [nothing, Action.bind_apply, ran, ran, ← Action.bind_apply]
      exact (congrFun (Action.bind_pure (stopTimer index)) session).symm
  | false =>
      have any : 0 < files := Nat.zero_lt_of_lt more
      rcases indexFile_of_quiet fuel quiet live held unended title more index with
        ⟨told, _, _, ran | ⟨_, cut⟩⟩
      · rw [ran, Action.bind_apply, ran, ← Action.bind_apply, calledAtEnd, live]
        simp only [reachedPercentage_eq_hundred_iff any more few, true_and]
        split
        · exact congrFun (endWalk_eq _ _ _ _ _ _) told
        · rfl
      · rw [Action.bind_apply, cut, cut]

namespace Mid

theorem indexed_of_stopped (invoke : Invoke)
    (mid : Mid start session index token files timer (Walk.way token files reached ++
      [.terminated, .ticked]))
    (more : reached < files) (stopped : session.lifecycle.stopped = true) :
    Indexed start session fuel index token files reached timer
      (indexFile invoke index token files none (reached + 1) session) := by
  have ran : indexFile invoke index token files none (reached + 1) session =
      (.value (), session.stopping index timer) := by
    rw [indexFile.eq_def, Action.get_bind_apply, isTerminated, if_pos stopped,
      stopTimer_apply mid.found]
  rw [ran]
  exact .brokenOff stopped stopped more mid.stopping

private theorem indexed_of_last
    (mid : Mid start session index token files timer (Walk.way token files reached ++
      [.ticked, .told (Walk.report token files files)]))
    (all : reached + 1 = files) (live : session.lifecycle.stopped = false) {fired : Session}
    (alive : fired.lifecycle.stopped = false) (outbound : session.outbound = fired.outbound) :
    Indexed start fired fuel index token files reached timer
      (endWalk (run fuel) index token files files none session) := by
  have within : Walk.way token files reached ++ Walk.last token files <+:
      Walk.course token files := by
    rw [← Walk.way_append_last all, ← List.append_assoc]
    exact List.prefix_append _ _
  have between : ∀ marks, marks <+: Walk.course token files →
      (Walk.way token files reached).length + 2 < marks.length →
        Walk.Lawful token files false marks := by
    intro marks part long
    refine .between part fun other less => ?_
    rw [Walk.length_way] at long
    omega
  rcases setProgress_emit_of_quiet fuel mid.goes.onCourse.quiet live
    (Walk.ending token files files) with ⟨told, undisturbed, same⟩
  rcases mid.told live rfl undisturbed (between _
    (List.IsPrefix.trans ⟨[.indexed], by simp [Walk.last]⟩ within) (by simp)) with ⟨ended, still⟩
  have finished : finish (run fuel) (Walk.report token files files) (.string "done") session =
      (do
        setProgress (Walk.ending token files files)
        emit (run fuel) (Walk.ending token files files) : Action Session Unit) session := rfl
  rcases same with same | cut
  · have indexed := ended.completing (by
      rw [still]
      refine between _ ?_ (by simp)
      simpa [Walk.last] using within)
    rw [endWalk_of_finished (finished.trans same) ended.found]
    refine .completed alive still all ?_
    have said : Walk.way token files (files - 1) ++ Walk.last token files =
        Walk.way token files reached ++ [.ticked, .told (Walk.report token files files)] ++
          [.told (Walk.ending token files files)] ++ [.indexed] := by
      rw [← all]
      simp [Walk.last]
    rw [said]
    exact indexed
  · have ran : endWalk (run fuel) index token files files none session = (.exhausted, told) := by
      rw [endWalk.eq_def, Action.bind_apply, finished, cut]
    rw [ran]
    refine .cut (fun records => ?_) ended
    exact not_recordsMessages_of_cut live cut (records.congr outbound)

theorem indexed_of_live
    (mid : Mid start session index token files timer (Walk.way token files reached ++ [.ticked]))
    (more : reached < files) (few : files ≤ mostFiles) (live : session.lifecycle.stopped = false)
    {progress : Progress} (held : session.progress? token = some progress)
    (unended : progress.isEnded = false) (title : progress.title = .string "indexing") :
    Indexed start session fuel index token files reached timer
      (indexFile (run fuel) index token files none (reached + 1) session) := by
  have lawful : Walk.Lawful token files false (Walk.way token files reached ++ [.ticked] ++
      [.told (Walk.report token files (reached + 1))]) := by
    rw [List.append_assoc]
    refine .between (Walk.prefix_way_append_told more) fun other less => ?_
    simp
    omega
  have any : 0 < files := Nat.zero_lt_of_lt more
  rcases indexFile_of_quiet fuel mid.goes.onCourse.quiet live held unended title more index with
    ⟨told, undisturbed, heldToo, same | ⟨heedless, cut⟩⟩
  · rcases mid.told live rfl undisturbed lawful with ⟨reported, alive⟩
    rw [List.append_assoc] at reported
    rw [same]
    by_cases all : reached + 1 = files
    · rw [if_pos ((reachedPercentage_eq_hundred_iff any more few).mpr all), all]
      rw [all] at reported
      exact reported.indexed_of_last all alive live undisturbed.unchanged.1
    · rw [if_neg (mt (reachedPercentage_eq_hundred_iff any more few).mp all)]
      exact .reported alive (by omega) heldToo reported
  · rw [cut]
    exact .cut heedless (mid.told live rfl undisturbed lawful).1

end Mid

/-! ## Whole ticks -/

namespace Indexed

variable {fired : Session} {result : Outcome Unit × Session}

theorem goes (indexed : Indexed start fired fuel index token files reached timer result) :
    Goes (ofWalk index token) start result.2 := by
  cases indexed with
  | cut _ mid => exact mid.goes
  | brokenOff _ _ _ mid => exact mid.goes
  | reported _ _ _ mid => exact mid.goes
  | completed _ _ _ mid => exact mid.goes

end Indexed

theorem callAtEnd_keeps (keeping : Invoke.Keeps (run fuel)) (onFinish : Option Program) :
    Keeps session (callAtEnd (run fuel) onFinish) := by
  cases onFinish with
  | none => exact .pure ()
  | some callback => exact (keeping _ _).seq fun _ _ => .pure ()

theorem attempt_bind_congr {α β : Type} {first second : Action Session α} {middle : Session}
    (same : first session = second middle) (next : Except Failure α → Action Session β) :
    (Action.attempt first >>= next) session = (Action.attempt second >>= next) middle := by
  rw [Action.bind_apply, Action.bind_apply, Action.attempt, same, Action.attempt]

theorem attempt_bind_of_value {α β γ : Type} {first : Action Session α} {value : α}
    {middle : Session} (came : first session = (.value value, middle))
    (second : α → Action Session β) (next : Except Failure β → Action Session γ) :
    (Action.attempt (first >>= second) >>= next) session =
      (Action.attempt (second value) >>= next) middle :=
  attempt_bind_congr (Action.bind_of_value came) next

theorem Indexed.finished {fired : Session} {body : Action Session Unit}
    (indexed : Indexed start fired fuel index token files reached timer (body fired))
    (keeping : Invoke.Keeps (run fuel)) (going : timer.stopped = false)
    (ticks : timer.ticks = reached + 1) (onFinish : Option Program) :
    Goes (ofWalk index token) start ((Action.attempt (do
      body
      callAtEnd (run fuel) (fired.calledAtEnd files reached onFinish)) >>= finishTick index)
        fired).2 := by
  generalize came : body fired = result at indexed
  cases indexed with
  | cut _ mid =>
      rw [Action.bind_apply, Action.attempt, Action.bind_apply, came]
      exact mid.goes
  | brokenOff stopped ended more mid =>
      have nothing : fired.calledAtEnd files reached onFinish = none := by
        simp [calledAtEnd, stopped]
      rw [attempt_bind_of_value came, nothing]
      refine mid.returned rfl ?_ (.ok ())
      rw [ended, List.append_assoc]
      exact .late more (List.prefix_refl _)
  | reported live more held mid =>
      have nothing : fired.calledAtEnd files reached onFinish = none := by
        simp [calledAtEnd, Nat.ne_of_lt more]
      rw [attempt_bind_of_value came, nothing]
      exact mid.goesOn rfl live more held going ticks
  | completed _ live all mid =>
      rw [attempt_bind_of_value came]
      exact mid.calling rfl (by omega) live rfl (callAtEnd_keeps keeping _)

end RpcSession.Session
