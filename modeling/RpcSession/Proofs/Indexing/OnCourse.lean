import RpcSession.Proofs.Indexing.Marks
import RpcSession.Proofs.QuietPeer
import RpcSession.Proofs.Timers.Ticks

/-!
# Sessions whose walks are on their course

Every walk of a session either waits for its next tick or has none scheduled, and its marks say how
far it got. What does not touch the timer of a walk, its progress and its marks leaves it where it
is, and no name of the host leads to them.
-/

namespace RpcSession.Session

variable {session middle after : Session} {index : ℕ} {token : ℤ} {files : ℕ}

/-! ## Walks

A walk belongs to a timer and a token. It waits for its next tick, or it rests with no tick
scheduled: in the middle of a tick, at its end, or broken off by the end of the session. -/

def callback? (session : Session) (index : ℕ) : Option TimerCallback :=
  (session.timer? index).map (·.callback)

/-- Whether a timer carries on a walk of a number of files, which can be counted. -/
def Tracks (session : Session) (index : ℕ) (token : ℤ) (files : ℕ) : Prop :=
  0 < files ∧ files ≤ mostFiles ∧
    ∃ onFinish, session.callback? index = some (.indexing token files onFinish)

def closing (session : Session) : List Mark :=
  if session.lifecycle.stopped then [.terminated] else []

structure Waiting (session : Session) (index : ℕ) (token : ℤ) (files reached : ℕ) (timer : Timer)
    (progress : Progress) : Prop where
  more : reached < files
  found : session.timer? index = some timer
  ticks : timer.ticks = reached
  going : timer.stopped = false
  scheduled : ∃ order due, timer.pending = some order ∧
    session.ticksOf index = [⟨order, due, index⟩]
  held : session.progress? token = some progress
  unended : progress.isEnded = false
  title : progress.title = .string "indexing"
  marks : session.marks index token = Walk.way token files reached ++ session.closing

inductive Standing (session : Session) (index : ℕ) (token : ℤ) (files : ℕ) : Prop
  | waiting {reached : ℕ} {timer : Timer} {progress : Progress}
      (waiting : session.Waiting index token files reached timer progress)
  | resting {timer : Timer} (found : session.timer? index = some timer)
      (idle : timer.pending = none) (still : session.ticksOf index = [])
      (lawful : Walk.Lawful token files session.lifecycle.stopped (session.marks index token))

/-- Whether the host may have a name for something: not for what belongs to a walk, nor for what
there is not yet. -/
def Allows (session : Session) : Reference → Prop
  | .progress token => token < session.identifiers.next ∧
      ∀ index files onFinish, session.callback? index ≠ some (.indexing token files onFinish)
  | .timer index => ∃ program, session.callback? index = some (.host program)
  | _ => True

structure OnCourse (session : Session) : Prop where
  quiet : ∀ message, (session.outbound message).IsQuiet
  clocked : Clocked session
  names : ∀ entry ∈ session.names, session.Allows entry.2
  taken : ∀ index token files onFinish,
    session.callback? index = some (.indexing token files onFinish) →
      token < session.identifiers.next
  alone : ∀ index other token files others onFinish onFinishOther,
    session.callback? index = some (.indexing token files onFinish) →
      session.callback? other = some (.indexing token others onFinishOther) → index = other
  /-- Nothing is said of walks that are still to come. -/
  unborn : ∀ index token, session.timers.length ≤ index → session.identifiers.next ≤ token →
    session.marks index token = session.closing
  standing : ∀ index token files, session.Tracks index token files →
    session.Standing index token files

/-! ## Changes beside walks

Which walks a piece of code carries on itself is a predicate on timers and tokens. All others it
has to leave where they are. -/

/-- A change of other parts of a session, with events that mark no walk. -/
structure Aside (session after : Session) : Prop where
  outbound : after.outbound = session.outbound
  stopped : after.lifecycle.stopped = session.lifecycle.stopped
  next : session.identifiers.next ≤ after.identifiers.next
  names : ∀ entry ∈ after.names, entry ∈ session.names ∨ after.Allows entry.2
  timers : after.timers = session.timers
  scheduled : after.loop.scheduled = session.loop.scheduled
  nextOrder : after.loop.nextOrder = session.loop.nextOrder
  progresses : after.progresses = session.progresses
  history : ∃ recent, after.history = recent ++ session.history ∧
    ∀ event ∈ recent, event.isMarking = false

/-- What a change does at most, if it may touch some walks. -/
structure Spares (own : ℕ → ℤ → Prop) (session after : Session) : Prop where
  outbound : after.outbound = session.outbound
  stopped : after.lifecycle.stopped = session.lifecycle.stopped
  next : session.identifiers.next ≤ after.identifiers.next
  names : ∀ entry ∈ after.names, entry ∈ session.names ∨ after.Allows entry.2
  callbacks : after.timers.map (·.callback) = session.timers.map (·.callback)
  timer : ∀ index token, ¬own index token → after.timer? index = session.timer? index
  ticks : ∀ index token, ¬own index token → after.ticksOf index = session.ticksOf index
  held : ∀ index token, ¬own index token → token < session.identifiers.next →
    after.progress? token = session.progress? token
  marks : ∀ index token, ¬own index token → after.marks index token = session.marks index token

/-- What becomes of the walks that some code does not carry on: one that has no tick scheduled is
left alone for good. -/
structure Later (own : ℕ → ℤ → Prop) (session after : Session) : Prop where
  outbound : after.outbound = session.outbound
  stopped : session.lifecycle.stopped = true → after.lifecycle.stopped = true
  next : session.identifiers.next ≤ after.identifiers.next
  callbacks : ∀ index callback, session.callback? index = some callback →
    after.callback? index = some callback
  settled : ∀ index token files, session.Tracks index token files → ¬own index token →
    session.ticksOf index = [] → after.timer? index = session.timer? index ∧
      after.ticksOf index = [] ∧
      after.marks index token = session.marks index token ++
        if session.lifecycle.stopped then [] else after.closing

def nobody : ℕ → ℤ → Prop := fun _ _ => False

def ofTimer (index : ℕ) : ℕ → ℤ → Prop := fun other _ => other = index

def ofToken (token : ℤ) : ℕ → ℤ → Prop := fun _ other => other = token

/-- A session that is on its course with all its walks, of which others than some may have gone on
since an earlier moment. -/
structure Goes (own : ℕ → ℤ → Prop) (session after : Session) : Prop where
  onCourse : OnCourse after
  later : Later own session after

variable {own : ℕ → ℤ → Prop}

theorem callback?_eq (session : Session) (index : ℕ) :
    session.callback? index = (session.timers.map (·.callback))[index]? := by
  rw [callback?, timer?, List.getElem?_map]

private theorem callback?_congr
    (same : after.timers.map (·.callback) = session.timers.map (·.callback))
    (index : ℕ) : after.callback? index = session.callback? index := by
  rw [callback?_eq, same, callback?_eq]

theorem lt_of_callback? {callback : TimerCallback}
    (found : session.callback? index = some callback) :
    index < session.timers.length := by
  rw [callback?_eq] at found
  have within := (List.getElem?_eq_some_iff.mp found).1
  rwa [List.length_map] at within

theorem Tracks.congr (same : ∀ index, after.callback? index = session.callback? index) :
    after.Tracks index token files ↔ session.Tracks index token files := by
  rw [Tracks, same, Tracks]

theorem Allows.later {reference : Reference} (allowed : session.Allows reference)
    (next : session.identifiers.next ≤ after.identifiers.next)
    (same : ∀ index, after.callback? index = session.callback? index) : after.Allows reference := by
  cases reference with
  | progress token =>
      refine ⟨Int.lt_of_lt_of_le allowed.1 next, fun index files onFinish => ?_⟩
      rw [same]
      exact allowed.2 index files onFinish
  | timer index =>
      rcases allowed with ⟨program, found⟩
      exact ⟨program, by rw [same, found]⟩
  | _ => trivial

namespace Spares

theorem callback? (spares : Spares own session after) (index : ℕ) :
    after.callback? index = session.callback? index := callback?_congr spares.callbacks index

theorem length (spares : Spares own session after) :
    after.timers.length = session.timers.length := by
  have same := congrArg List.length spares.callbacks
  rwa [List.length_map, List.length_map] at same

private theorem closing (spares : Spares own session after) : after.closing = session.closing := by
  rw [Session.closing, spares.stopped, Session.closing]

theorem mono {more : ℕ → ℤ → Prop} (spares : Spares own session after)
    (wider : ∀ index token, own index token → more index token) : Spares more session after where
  outbound := spares.outbound
  stopped := spares.stopped
  next := spares.next
  names := spares.names
  callbacks := spares.callbacks
  timer index token other := spares.timer index token (mt (wider _ _) other)
  ticks index token other := spares.ticks index token (mt (wider _ _) other)
  held index token other := spares.held index token (mt (wider _ _) other)
  marks index token other := spares.marks index token (mt (wider _ _) other)

theorem aside (aside : Aside session after) : Spares nobody session after where
  outbound := aside.outbound
  stopped := aside.stopped
  next := aside.next
  names := aside.names
  callbacks := by rw [aside.timers]
  timer index _ _ := by rw [timer?, aside.timers, timer?]
  ticks index _ _ := by rw [ticksOf, aside.scheduled, ticksOf]
  held _ token _ _ := by rw [progress?, aside.progresses, progress?]
  marks index token _ := by
    rcases aside.history with ⟨recent, history, unmarked⟩
    exact marks_of_unmarked history unmarked index token

end Spares

namespace Aside

theorem of_eq (same : after = { session with
      lifecycle := { after.lifecycle with stopped := session.lifecycle.stopped }
      registry := after.registry
      exchanges := after.exchanges
      responders := after.responders
      loop := { session.loop with now := after.loop.now, ready := after.loop.ready }
      cells := after.cells
      queues := after.queues }) : Aside session after := by
  rw [same]
  exact ⟨rfl, rfl, Int.le_refl _, fun _ => .inl, rfl, rfl, rfl, rfl, [], rfl, by simp⟩

theorem noting (session : Session) {event : Event} (unmarked : event.isMarking = false) :
    Aside session (session.noting event) :=
  ⟨rfl, rfl, Int.le_refl _, fun _ => .inl, rfl, rfl, rfl, rfl, [event], rfl, by simpa⟩

theorem of_undisturbed (undisturbed : Undisturbed session after) : Aside session after := by
  rcases undisturbed with ⟨cells, queues, recent, rfl, remarks⟩
  refine ⟨rfl, rfl, Int.le_refl _, fun _ => .inl, rfl, rfl, rfl, rfl, recent, rfl, ?_⟩
  intro event member
  have remark := remarks event member
  cases event <;> first | rfl | cases remark

end Aside

namespace Later

theorem refl (session : Session) : Later own session session where
  outbound := rfl
  stopped := id
  next := Int.le_refl _
  callbacks _ _ := id
  settled index token files _ _ still := by
    refine ⟨rfl, still, ?_⟩
    rw [closing]
    split <;> simp

theorem mono {more : ℕ → ℤ → Prop} (later : Later own session after)
    (wider : ∀ index token, own index token → more index token) : Later more session after where
  outbound := later.outbound
  stopped := later.stopped
  next := later.next
  callbacks := later.callbacks
  settled index token files tracks other :=
    later.settled index token files tracks (mt (wider _ _) other)

theorem tracks (later : Later own session after) (tracks : session.Tracks index token files) :
    after.Tracks index token files := by
  rcases tracks with ⟨any, few, onFinish, found⟩
  exact ⟨any, few, onFinish, later.callbacks _ _ found⟩

theorem trans (first : Later own session middle) (second : Later own middle after) :
    Later own session after where
  outbound := second.outbound.trans first.outbound
  stopped := second.stopped ∘ first.stopped
  next := Int.le_trans first.next second.next
  callbacks index callback found := second.callbacks _ _ (first.callbacks _ _ found)
  settled index token files tracks other still := by
    rcases first.settled index token files tracks other still with ⟨timer, quiet, marks⟩
    rcases second.settled index token files (first.tracks tracks) other quiet with
      ⟨timerToo, quietToo, marksToo⟩
    refine ⟨timerToo.trans timer, quietToo, ?_⟩
    rw [marksToo, marks, List.append_assoc]
    congr 1
    cases before : session.lifecycle.stopped with
    | true => simp [first.stopped before]
    | false =>
        cases between : middle.lifecycle.stopped with
        | false => simp [closing, between]
        | true => simp [closing, between, second.stopped between]

private theorem spared (spares : Spares own session after) : Later own session after where
  outbound := spares.outbound
  stopped := spares.stopped.trans
  next := spares.next
  callbacks index callback found := (spares.callback? index).trans found
  settled index token files tracks other still := by
    refine ⟨spares.timer index token other, (spares.ticks index token other).trans still, ?_⟩
    rw [spares.marks index token other, closing, spares.stopped]
    split <;> simp

end Later

/-! ## Steps that keep the course

A step that touches some walks keeps the course if these are, after it, where they may be; one
that touches none always does. -/

theorem Standing.congr (standing : session.Standing index token files)
    (timer : after.timer? index = session.timer? index)
    (ticks : after.ticksOf index = session.ticksOf index)
    (held : after.progress? token = session.progress? token)
    (marks : after.marks index token = session.marks index token)
    (stopped : after.lifecycle.stopped = session.lifecycle.stopped) :
    after.Standing index token files := by
  have closing : after.closing = session.closing := by rw [closing, stopped, Session.closing]
  cases standing with
  | waiting waiting =>
      refine .waiting { waiting with found := ?_, scheduled := ?_, held := ?_, marks := ?_ }
      · exact timer.trans waiting.found
      · rw [ticks]
        exact waiting.scheduled
      · exact held.trans waiting.held
      · rw [marks, closing]
        exact waiting.marks
  | resting found idle still lawful =>
      refine .resting (timer.trans found) idle (ticks.trans still) ?_
      rw [marks, stopped]
      exact lawful

private theorem Standing.spared (standing : session.Standing index token files)
    (spares : Spares own session after) (other : ¬own index token)
    (taken : token < session.identifiers.next) : after.Standing index token files :=
  standing.congr (spares.timer index token other) (spares.ticks index token other)
    (spares.held index token other taken) (spares.marks index token other) spares.stopped

namespace OnCourse

theorem taken_of_tracks (onCourse : OnCourse session) (tracks : session.Tracks index token files) :
    token < session.identifiers.next := by
  rcases tracks with ⟨_, _, onFinish, found⟩
  exact onCourse.taken _ _ _ _ found

/-- A step that touches some walks keeps the course if these are, after it, where they may be. -/
theorem spared (onCourse : OnCourse session) (spares : Spares own session after)
    (clocked : Clocked after)
    (old : ∀ index token, own index token → index < after.timers.length ∨
      token < after.identifiers.next)
    (standing : ∀ index token files, after.Tracks index token files → own index token →
      after.Standing index token files) : Goes own session after := by
  refine ⟨?_, .spared spares⟩
  constructor
  · intro message
    rw [spares.outbound]
    exact onCourse.quiet message
  · exact clocked
  · intro entry member
    rcases spares.names entry member with before | allowed
    · exact (onCourse.names entry before).later spares.next spares.callback?
    · exact allowed
  · intro index token files onFinish found
    rw [spares.callback?] at found
    exact Int.lt_of_lt_of_le (onCourse.taken index token files onFinish found) spares.next
  · intro index other token files others onFinish onFinishOther found foundToo
    rw [spares.callback?] at found foundToo
    exact onCourse.alone _ _ _ _ _ _ _ found foundToo
  · intro index token beyond fresh
    have other : ¬own index token := fun owned => by
      rcases old index token owned with within | taken <;> omega
    rw [spares.marks index token other, spares.closing]
    rw [spares.length] at beyond
    exact onCourse.unborn index token beyond (Int.le_trans spares.next fresh)
  · intro index token files tracks
    by_cases owned : own index token
    · exact standing index token files tracks owned
    · rw [Tracks.congr spares.callback?] at tracks
      exact (onCourse.standing index token files tracks).spared spares owned
        (onCourse.taken_of_tracks tracks)

theorem beside (onCourse : OnCourse session) (spares : Spares own session after)
    (clocked : Clocked after)
    (old : ∀ index token, own index token → index < after.timers.length ∨
      token < after.identifiers.next)
    (none : ∀ index token files, session.Tracks index token files → ¬own index token) :
    Goes nobody session after := by
  have goes := onCourse.spared spares clocked old fun index token files tracks owned =>
    absurd owned (none index token files ((Tracks.congr spares.callback?).mp tracks))
  refine ⟨goes.onCourse, ⟨goes.later.outbound, goes.later.stopped, goes.later.next,
    goes.later.callbacks, ?_⟩⟩
  intro index token files tracks _
  exact goes.later.settled index token files tracks (none index token files tracks)

theorem aside (onCourse : OnCourse session) (aside : Aside session after) :
    Goes nobody session after :=
  onCourse.beside (.aside aside)
    (onCourse.clocked.aside aside.timers aside.scheduled aside.nextOrder)
    (fun _ _ => False.elim) fun _ _ _ _ => id

end OnCourse

end RpcSession.Session
