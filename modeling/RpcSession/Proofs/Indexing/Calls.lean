import RpcSession.Proofs.Indexing.Keeping
import RpcSession.Proofs.Indexing.SilentPeer

/-!
# New walks

A call of the indexing receiver begins a progress and adds a timer, whose walk then waits for its
first tick. New timers and progresses of the host belong to no walk.
-/

namespace RpcSession.Session

variable {session after : Session} {index : ℕ} {token : ℤ} {files : ℕ} {fuel : ℕ}

/-! ## New progresses -/

private theorem OnCourse.beginning (onCourse : OnCourse session) (percentage : Value)
    (entry : LogEntry) {progress : Progress} (token : progress.token = session.identifiers.next) :
    Goes nobody session ((session.beginning percentage progress).announcing entry progress) := by
  have taken : progress.token < (session.beginning percentage progress).identifiers.next := by
    rw [token]
    exact Int.lt_succ _
  have unknown : ∀ index files, ¬session.Tracks index progress.token files := by
    intro index files tracks
    have old := onCourse.taken_of_tracks tracks
    omega
  have begun : Goes nobody session (session.beginning percentage progress) := by
    refine onCourse.beside (.beginning session percentage progress)
      (onCourse.clocked.aside rfl rfl rfl) (fun index token own => .inr ?_)
      fun index token files tracks own => ?_
    · cases own
      exact taken
    · cases own
      exact unknown index files tracks
  exact begun.trans (begun.onCourse.announcing entry taken unknown)

theorem OnCourse.begun (onCourse : OnCourse session) {percentage : Value} {progress : Progress}
    (token : progress.token = session.identifiers.next)
    (undisturbed : Undisturbed ((session.beginning percentage progress).announcing
      (progressEntry progress) progress) after) :
    Goes nobody session after ∧ after.Allows (.progress progress.token) := by
  have begun := onCourse.beginning percentage (progressEntry progress) token
  refine ⟨begun.trans (begun.onCourse.aside (.of_undisturbed undisturbed)), ?_⟩
  rcases undisturbed with ⟨cells, queues, recent, rfl, _⟩
  refine ⟨by rw [token]; exact Int.lt_succ _, fun index files onFinish found => ?_⟩
  have old := onCourse.taken index _ files onFinish found
  omega

theorem begin_keeps (title message percentage : Value) :
    Keeps session (begin (run fuel) title message percentage) := by
  intro onCourse
  rcases begin_of_quiet fuel onCourse.quiet title message percentage with
    ⟨_, failure, same⟩ | ⟨progress, after, _, shape, _, undisturbed, same | same⟩ <;> rw [same]
  · exact onCourse.aside (.noting session rfl)
  · exact (onCourse.begun (by rw [shape]) undisturbed).1
  · exact (onCourse.begun (by rw [shape]) undisturbed).1

theorem begin_allows (onCourse : OnCourse session) {title message percentage : Value}
    (began : begin (run fuel) title message percentage session = (.value token, after)) :
    after.Allows (.progress token) := by
  rcases begin_of_quiet fuel onCourse.quiet title message percentage with
    ⟨_, failure, same⟩ | ⟨progress, after, _, shape, _, undisturbed, same | same⟩ <;>
    rw [same] at began <;> cases began
  have own : progress.token = session.identifiers.next := by rw [shape]
  rw [← own]
  exact (onCourse.begun own undisturbed).2

/-! ## New timers

Adding a timer and scheduling its first tick leaves all other timers as they are. -/

structure Adds (callback : TimerCallback) (session after : Session) : Prop where
  outbound : after.outbound = session.outbound
  stopped : after.lifecycle.stopped = session.lifecycle.stopped
  identifiers : after.identifiers = session.identifiers
  names : after.names = session.names
  progresses : after.progresses = session.progresses
  history : after.history = session.history
  callbacks : after.timers.map (·.callback) = session.timers.map (·.callback) ++ [callback]
  timer : ∀ index, index < session.timers.length → after.timer? index = session.timer? index
  ticks : ∀ index, index < session.timers.length → after.ticksOf index = session.ticksOf index
  clocked : Clocked session → Clocked after

namespace Adds

variable {callback : TimerCallback}

private theorem length (adds : Adds callback session after) :
    after.timers.length = session.timers.length + 1 := by
  have same := congrArg List.length adds.callbacks
  simpa using same

theorem callback?_last (adds : Adds callback session after) :
    after.callback? session.timers.length = some callback := by
  rw [callback?_eq, adds.callbacks, List.getElem?_append_right (by simp)]
  simp

theorem callback?_cases (adds : Adds callback session after) {other : TimerCallback}
    (found : after.callback? index = some other) :
    session.callback? index = some other ∨ index = session.timers.length ∧ other = callback := by
  rw [callback?_eq, adds.callbacks, List.getElem?_append] at found
  split at found
  · exact .inl (by rw [callback?_eq, found])
  · rename_i beyond
    rw [List.getElem?_singleton] at found
    split at found
    · rename_i last
      rw [List.length_map] at beyond last
      exact .inr ⟨by omega, (Option.some.inj found).symm⟩
    · cases found

theorem callback?_old (adds : Adds callback session after) {other : TimerCallback}
    (found : session.callback? index = some other) : after.callback? index = some other := by
  have within := lt_of_callback? found
  rw [callback?_eq] at found
  rw [callback?_eq, adds.callbacks, List.getElem?_append_left (by simpa using within)]
  exact found

theorem marks (adds : Adds callback session after) (index : ℕ) (token : ℤ) :
    after.marks index token = session.marks index token := by
  rw [Session.marks, adds.history, Session.marks]

theorem closing (adds : Adds callback session after) : after.closing = session.closing := by
  rw [Session.closing, adds.stopped, Session.closing]

private theorem progress? (adds : Adds callback session after) (token : ℤ) :
    after.progress? token = session.progress? token := by
  rw [Session.progress?, adds.progresses, Session.progress?]

theorem next (adds : Adds callback session after) :
    after.identifiers.next = session.identifiers.next := congrArg Identifiers.next adds.identifiers

private theorem later (adds : Adds callback session after) : Later nobody session after where
  outbound := adds.outbound
  stopped := adds.stopped.trans
  next := Int.le_of_eq adds.next.symm
  callbacks _ _ found := adds.callback?_old found
  settled index token files tracks _ still := by
    rcases tracks with ⟨_, _, onFinish, found⟩
    have within := lt_of_callback? found
    refine ⟨adds.timer index within, (adds.ticks index within).trans still, ?_⟩
    rw [adds.marks, adds.closing, Session.closing]
    split <;> simp

section

variable (adds : Adds callback session after) (onCourse : OnCourse session)
  (fresh : ∀ token files onFinish, callback = .indexing token files onFinish →
    session.Allows (.progress token) ∧ ∀ entry ∈ session.names, entry.2 ≠ .progress token)

include adds onCourse fresh

private theorem allows : ∀ entry ∈ after.names, after.Allows entry.2 := by
  intro entry member
  rw [adds.names] at member
  have allowed := onCourse.names entry member
  cases reference : entry.2 with
  | progress token =>
      rw [reference] at allowed
      refine ⟨by rw [adds.next]; exact allowed.1, fun index files onFinish found => ?_⟩
      rcases adds.callback?_cases found with old | ⟨_, same⟩
      · exact allowed.2 index files onFinish old
      · exact (fresh token files onFinish same.symm).2 entry member reference
  | timer index =>
      rw [reference] at allowed
      rcases allowed with ⟨program, found⟩
      exact ⟨program, adds.callback?_old found⟩
  | _ => trivial

private theorem alone {index other : ℕ} {token : ℤ} {files others : ℤ}
    {onFinish onFinishOther : Option Program}
    (found : after.callback? index = some (.indexing token files onFinish))
    (foundToo : after.callback? other = some (.indexing token others onFinishOther)) :
    index = other := by
  rcases adds.callback?_cases found with old | ⟨last, same⟩ <;>
    rcases adds.callback?_cases foundToo with oldToo | ⟨lastToo, sameToo⟩
  · exact onCourse.alone _ _ _ _ _ _ _ old oldToo
  · exact absurd old ((fresh token others onFinishOther sameToo.symm).1.2 _ _ _)
  · exact absurd oldToo ((fresh token files onFinish same.symm).1.2 _ _ _)
  · rw [last, lastToo]

/-- A new timer keeps the course if its walk, should it have one, is under a token of its own and
on its course. -/
theorem goes (standing : ∀ token files, after.Tracks session.timers.length token files →
    after.Standing session.timers.length token files) : Goes nobody session after := by
  refine ⟨?_, adds.later⟩
  constructor
  · intro message
    rw [adds.outbound]
    exact onCourse.quiet message
  · exact adds.clocked onCourse.clocked
  · exact adds.allows onCourse fresh
  · intro index token files onFinish found
    rw [adds.next]
    rcases adds.callback?_cases found with old | ⟨_, same⟩
    · exact onCourse.taken index token files onFinish old
    · exact (fresh token files onFinish same.symm).1.1
  · intro index other token files others onFinish onFinishOther found foundToo
    exact adds.alone onCourse fresh found foundToo
  · intro index token beyond unused
    rw [adds.length] at beyond
    rw [adds.next] at unused
    rw [adds.marks, adds.closing]
    exact onCourse.unborn index token (by omega) unused
  · intro index token files tracks
    rcases tracks with ⟨any, few, onFinish, found⟩
    rcases adds.callback?_cases found with old | ⟨last, same⟩
    · have within := lt_of_callback? old
      exact (onCourse.standing index token files ⟨any, few, onFinish, old⟩).congr
        (adds.timer index within) (adds.ticks index within) (adds.progress? token)
        (adds.marks index token) adds.stopped
    · rw [last] at found ⊢
      exact standing token files ⟨any, few, onFinish, found⟩

end

theorem created (session : Session) (timer : Timer) (idle : timer.pending = none) :
    Adds timer.callback session { session with timers := session.timers ++ [timer] } where
  outbound := rfl
  stopped := rfl
  identifiers := rfl
  names := rfl
  progresses := rfl
  history := rfl
  callbacks := by rw [List.map_append, List.map_singleton]
  timer index within := List.getElem?_append_left within
  ticks _ _ := rfl
  clocked clocked := clocked.created idle

private theorem scheduled (session : Session) (timer : Timer) (idle : timer.pending = none)
    (going : timer.stopped = false) (seconds : Float) :
    Adds timer.callback session ({ session with timers := session.timers ++ [timer] }.scheduling
      session.timers.length seconds) := by
  have created := Adds.created session timer idle
  have scheduling := Spares.scheduling { session with timers := session.timers ++ [timer] }
    session.timers.length seconds
  have found : ({ session with timers := session.timers ++ [timer] } : Session).timer?
      session.timers.length = some timer := List.getElem?_concat_length
  constructor
  · rfl
  · rfl
  · rfl
  · rfl
  · rfl
  · rfl
  · exact scheduling.callbacks.trans created.callbacks
  · intro index within
    exact (scheduling.timer index 0 (Nat.ne_of_lt within)).trans (created.timer index within)
  · intro index within
    exact (scheduling.ticks index 0 (Nat.ne_of_lt within)).trans (created.ticks index within)
  · intro clocked
    exact (clocked.created idle).scheduling seconds found going

end Adds

theorem createTimer_host_keeps (interval : Float) (delay : Option Float) (program : Program) :
    Keeps session (createTimer interval delay (.host program)) := by
  unfold createTimer
  split
  · exact .fail _
  · intro onCourse
    exact (Adds.created session _ rfl).goes onCourse nofun fun token files tracks => by
      rcases tracks with ⟨_, _, onFinish, found⟩
      cases ((Adds.created session _ rfl).callback?_last.symm.trans found)

theorem createTimer_host_allows {interval : Float} {delay : Option Float} {program : Program}
    (created : createTimer interval delay (.host program) session = (.value index, after)) :
    after.Allows (.timer index) := by
  unfold createTimer at created
  split at created
  · cases created
  · cases created
    exact ⟨program, (Adds.created session _ rfl).callback?_last⟩

/-! ## Calls of the indexing receiver

A new walk has its first tick scheduled, and no more of it has happened than that the peer was
told of its begin. -/

def startWalk (invoke : Invoke) (files : Int) (delay interval : Float)
    (onFinish : Option Program) : Action Session Unit := do
  let token ← begin invoke (.string "indexing") (.string "") (.int 0)
  let timer ← createTimer interval (some delay) (.indexing token files onFinish)
  startTimer timer

theorem receiveIndexing_eq (invoke : Invoke) (files : Option Int) (delay interval : Float)
    (draw : Program) (onFinish : Option Program) :
    receiveIndexing invoke files delay interval draw onFinish = (do
      let files ← match files with
        | some files => pure files
        | none => wholeNumber <$> invoke draw
      startWalk invoke files delay interval onFinish) := rfl

def withWalk (session : Session) (token files : Int) (delay interval : Float)
    (onFinish : Option Program) : Session :=
  let timer : Timer := { interval, delay, callback := .indexing token files onFinish }
  { session with timers := session.timers ++ [timer] }.scheduling session.timers.length delay

/-- A call fails on a terminated session. On a live one it tells the peer of a new progress, and
if it is not cut short there, adds a timer with a positive interval. -/
theorem startWalk_of_quiet (fuel : ℕ) (onCourse : OnCourse session) (files : Int)
    (delay interval : Float) (onFinish : Option Program) :
    (session.lifecycle.stopped = true ∧ ∃ failure,
      startWalk (run fuel) files delay interval onFinish session = (.failed failure,
        session.noting (.progressAsked (.int 0) (!session.lifecycle.stopped)))) ∨
    ∃ after, session.lifecycle.stopped = false ∧ Undisturbed session.beginningWalk after ∧
      (startWalk (run fuel) files delay interval onFinish session = (.exhausted, after) ∨
        interval ≤ 0 ∧ startWalk (run fuel) files delay interval onFinish session =
          (.failed .nonPositiveInterval, after) ∨
        ¬interval ≤ 0 ∧ startWalk (run fuel) files delay interval onFinish session =
          (.value (), after.withWalk session.identifiers.next files delay interval onFinish)) := by
  rcases begin_of_quiet fuel onCourse.quiet (.string "indexing") (.string "") (.int 0) with
    ⟨unfit, failure, same⟩ | ⟨progress, after, live, shape, fit, undisturbed, same⟩
  · refine .inl ⟨unfit.resolve_right (by simp [Percentage.ofValue?, Except.isOk, Except.toBool]),
      failure, ?_⟩
    rw [startWalk, Action.bind_apply, same]
  · have zero : progress.percentage = some 0 := (Except.ok.inj fit).symm
    rw [zero] at shape
    rw [shape] at undisturbed
    refine .inr ⟨after, live, undisturbed, ?_⟩
    rcases same with same | same
    · rw [startWalk, Action.bind_of_value same]
      by_cases positive : interval ≤ 0
      · refine .inr (.inl ⟨positive, ?_⟩)
        rw [createTimer, if_pos positive]
        rfl
      · refine .inr (.inr ⟨positive, ?_⟩)
        rw [Action.bind_of_value (createTimer_apply positive delay _)]
        exact startTimer_created _ rfl rfl
    · refine .inl ?_
      rw [startWalk, Action.bind_apply, same]

private theorem marks_beginningWalk (session : Session) (index : ℕ) :
    session.beginningWalk.marks index session.identifiers.next =
      session.marks index session.identifiers.next ++
        [.told (Walk.opening session.identifiers.next)] :=
  (marks_announcing _ _ (Walk.opening session.identifiers.next) index).trans
    (congrArg (· ++ _) (marks_beginning session _ _ index _))

theorem timer?_withWalk (session : Session) (token files : Int) (delay interval : Float)
    (onFinish : Option Program) :
    (session.withWalk token files delay interval onFinish).timer? session.timers.length =
      some { interval, delay, callback := .indexing token files onFinish,
             pending := some session.loop.nextOrder } := by
  rw [Session.withWalk, timer?_scheduling, timer?, List.getElem?_concat_length]
  simp

theorem marks_withWalk (onCourse : OnCourse session) (live : session.lifecycle.stopped = false)
    (undisturbed : Undisturbed session.beginningWalk after) (files : Int) (delay interval : Float)
    (onFinish : Option Program) :
    (after.withWalk session.identifiers.next files delay interval onFinish).marks
      session.timers.length session.identifiers.next =
        [.told (Walk.opening session.identifiers.next)] := by
  have unborn := onCourse.unborn session.timers.length session.identifiers.next
    (Nat.le_refl _) (Int.le_refl _)
  rw [closing, live, if_neg (by simp)] at unborn
  have kept := (Spares.aside (.of_undisturbed undisturbed)).marks session.timers.length
    session.identifiers.next id
  rw [marks_beginningWalk, unborn] at kept
  exact kept

theorem OnCourse.ticksOf_withWalk (onCourse : OnCourse session)
    (undisturbed : Undisturbed session.beginningWalk after) (files : Int) (delay interval : Float)
    (onFinish : Option Program) :
    (after.withWalk session.identifiers.next files delay interval onFinish).ticksOf
        after.timers.length =
      [⟨after.loop.nextOrder, after.loop.now + delay, after.timers.length⟩] := by
  have clocked := (onCourse.begun rfl undisturbed).1.onCourse.clocked
  have first : after.ticksOf after.timers.length = [] := by
    refine List.filter_eq_nil_iff.mpr fun tick member own => ?_
    have owned := clocked.owned tick member
    rw [beq_iff_eq.mp own, timer?, isSome_getElem?] at owned
    exact Nat.lt_irrefl _ owned
  change List.filter _ (after.loop.scheduled ++ [_]) = _
  rw [List.filter_append, ← ticksOf, first]
  simp

private theorem OnCourse.withWalk (onCourse : OnCourse session)
    (live : session.lifecycle.stopped = false)
    (undisturbed : Undisturbed session.beginningWalk after) (files : Int) (delay interval : Float)
    (onFinish : Option Program) :
    Goes nobody session
      (after.withWalk session.identifiers.next files delay interval onFinish) := by
  rcases onCourse.begun rfl undisturbed with ⟨begun, allowed⟩
  let timer : Timer :=
    { interval, delay, callback := .indexing session.identifiers.next files onFinish }
  have adds : Adds timer.callback after _ := .scheduled after timer rfl rfl delay
  have unchanged : after.names = session.names ∧ after.timers = session.timers ∧
      after.lifecycle.stopped = session.lifecycle.stopped ∧
      after.progress? session.identifiers.next = some (Walk.opening session.identifiers.next) := by
    have begun : session.beginningWalk.progresses =
        Walk.opening session.identifiers.next :: session.progresses := rfl
    have held := progress?_of_begun begun session.identifiers.next
    rcases undisturbed with ⟨cells, queues, recent, rfl, _⟩
    exact ⟨rfl, rfl, rfl, held.trans (if_pos rfl)⟩
  rcases unchanged with ⟨names, timers, stopped, held⟩
  refine begun.trans (adds.goes begun.onCourse (fun token files onFinish same => ?_) ?_)
  · cases same
    refine ⟨allowed, fun entry member reference => ?_⟩
    rw [names] at member
    have old := onCourse.names entry member
    rw [reference] at old
    exact absurd old.1 (Int.lt_irrefl _)
  · rintro token number ⟨any, _, _, found⟩
    cases adds.callback?_last.symm.trans found
    have scheduled := onCourse.ticksOf_withWalk undisturbed number delay interval onFinish
    have marks := marks_withWalk onCourse live undisturbed number delay interval onFinish
    have going : after.closing = [] := by
      rw [closing, stopped, live]
      rfl
    rw [← timers] at marks
    exact .waiting ⟨any, timer?_withWalk _ _ _ _ _ _, rfl, rfl, ⟨_, _, rfl, scheduled⟩, held, rfl,
      rfl, marks.trans (by rw [adds.closing, going]; rfl)⟩

theorem startWalk_keeps (files : Int) (delay interval : Float) (onFinish : Option Program) :
    Keeps session (startWalk (run fuel) files delay interval onFinish) := by
  intro onCourse
  rcases startWalk_of_quiet fuel onCourse files delay interval onFinish with
    ⟨_, failure, same⟩ | ⟨after, live, undisturbed, same | ⟨_, same⟩ | ⟨_, same⟩⟩ <;> rw [same]
  · exact onCourse.aside (.noting session rfl)
  · exact (onCourse.begun rfl undisturbed).1
  · exact (onCourse.begun rfl undisturbed).1
  · exact onCourse.withWalk live undisturbed files delay interval onFinish

theorem receiveIndexing_keeps (keeping : Invoke.Keeps (run fuel)) (files : Option Int)
    (delay interval : Float) (draw : Program) (onFinish : Option Program) :
    Keeps session (receiveIndexing (run fuel) files delay interval draw onFinish) := by
  rw [receiveIndexing_eq]
  cases files with
  | some files => exact (Keeps.pure files).seq fun _ _ => startWalk_keeps _ _ _ _
  | none => exact ((keeping draw session).map _).seq fun _ _ => startWalk_keeps _ _ _ _

end RpcSession.Session
