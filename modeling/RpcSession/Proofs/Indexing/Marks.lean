import RpcSession.Proofs.Change
import RpcSession.Proofs.Indexing.Walk

/-!
# Marks of a walk

Of all that happens in a session, only a few events concern one call of the indexing receiver:
what its peer is told under the token, the ticks of the timer, and the end of the session. They
come in the order of one fixed course, of which a part has happened at any time.
-/

namespace RpcSession.Session

inductive Mark where
  | told (progress : Progress)
  | ticked
  | indexed
  | returned
  | terminated

/-- What an event says of the walk that a timer carries on under a token. -/
def Event.mark? (index : ℕ) (token : ℤ) : Event → Option Mark
  | .sent progress => if progress.token = token then some (.told progress) else none
  | .ticked timer => if timer = index then some .ticked else none
  | .tickReturned timer _ _ => if timer = index then some .returned else none
  | .indexed other => if other = token then some .indexed else none
  | .terminated => some .terminated
  | _ => none

def Event.isMarking : Event → Bool
  | .sent _ | .ticked _ | .tickReturned _ _ _ | .indexed _ | .terminated => true
  | _ => false

def marks (session : Session) (index : ℕ) (token : ℤ) : List Mark :=
  session.history.reverse.filterMap (Event.mark? index token)

variable {session after : Session} {index : ℕ} {token : ℤ}

theorem marks_append {recent : List Event} (history : after.history = recent ++ session.history)
    (index : ℕ) (token : ℤ) :
    after.marks index token =
      session.marks index token ++ recent.reverse.filterMap (Event.mark? index token) := by
  rw [marks, history, List.reverse_append, List.filterMap_append, marks]

private theorem Event.mark?_of_not_isMarking {event : Event} (other : event.isMarking = false)
    (index : ℕ) (token : ℤ) : event.mark? index token = none := by
  cases event <;> first | rfl | cases other

theorem marks_of_unmarked {recent : List Event}
    (history : after.history = recent ++ session.history)
    (unmarked : ∀ event ∈ recent, event.isMarking = false) (index : ℕ) (token : ℤ) :
    after.marks index token = session.marks index token := by
  rw [marks_append history, List.filterMap_eq_nil_iff.mpr, List.append_nil]
  intro event member
  exact Event.mark?_of_not_isMarking (unmarked event (List.mem_reverse.mp member)) index token

def Mark.told? : Mark → Option Progress
  | .told progress => some progress
  | _ => none

theorem told_marks (session : Session) (index : ℕ) (token : ℤ) :
    (session.marks index token).filterMap Mark.told? =
      session.sentProgress.filter (·.token == token) := by
  rw [marks, sentProgress, List.filterMap_filterMap, ← List.filterMap_eq_filter,
    List.filterMap_filterMap]
  congr 1
  funext event
  cases event with
  | sent progress =>
      by_cases own : progress.token = token <;> simp [Event.mark?, Mark.told?, Option.guard, own]
  | ticked | tickReturned | indexed =>
      simp only [Event.mark?]
      split <;> rfl
  | _ => rfl

/-! ## The course of a walk

The way to some files is the call and a tick for each of them. The tick of the last file also
tells of the end and stops the timer, before `on_finish` is called and the tick comes back. -/

namespace Walk

variable {files reached indexed : ℕ} {marks : List Mark}

def step (token : ℤ) (files indexed : ℕ) : List Mark :=
  [.ticked, .told (report token files indexed), .returned]

def way (token : ℤ) (files reached : ℕ) : List Mark :=
  .told (opening token) :: (List.range reached).flatMap fun index => step token files (index + 1)

def last (token : ℤ) (files : ℕ) : List Mark :=
  [.ticked, .told (report token files files), .told (ending token files files), .indexed]

def course (token : ℤ) (files : ℕ) : List Mark :=
  way token files (files - 1) ++ (last token files ++ [.returned])

theorem way_succ (token : ℤ) (files reached : ℕ) :
    way token files (reached + 1) = way token files reached ++ step token files (reached + 1) := by
  rw [way, List.range_succ, List.flatMap_append, List.flatMap_singleton, way, List.cons_append]

@[simp] theorem length_way (token : ℤ) (files reached : ℕ) :
    (way token files reached).length = 3 * reached + 1 := by
  induction reached with
  | zero => rfl
  | succ reached induction =>
      rw [way_succ, List.length_append, induction]
      rfl

private theorem prefix_way {more : ℕ} (ordered : reached ≤ more) :
    way token files reached <+: way token files more := by
  induction ordered with
  | refl => exact List.prefix_refl _
  | step _ induction =>
      rw [way_succ]
      exact induction.trans (List.prefix_append _ _)

theorem prefix_way_course (more : reached < files) :
    way token files reached <+: course token files :=
  (prefix_way (Nat.le_pred_of_lt more)).trans (List.prefix_append _ _)

private theorem prefix_way_append_step (more : reached + 1 < files) :
    way token files reached ++ step token files (reached + 1) <+: course token files := by
  rw [← way_succ]
  exact prefix_way_course more

theorem way_append_last (all : reached + 1 = files) :
    way token files reached ++ (last token files ++ [.returned]) = course token files := by
  subst all
  rfl

theorem prefix_way_append_told (more : reached < files) :
    way token files reached ++ [.ticked, .told (report token files (reached + 1))] <+:
      course token files := by
  rcases Nat.lt_or_eq_of_le (Nat.succ_le_of_lt more) with less | all
  · refine List.IsPrefix.trans ?_ (prefix_way_append_step less)
    exact (List.prefix_append_right_inj _).mpr ⟨[.returned], rfl⟩
  · rw [← way_append_last all]
    refine (List.prefix_append_right_inj _).mpr ⟨[.told (ending token files files), .indexed,
      .returned], ?_⟩
    rw [← all]
    rfl

theorem prefix_way_append_ticked (more : reached < files) :
    way token files reached ++ [.ticked] <+: course token files := by
  refine List.IsPrefix.trans ?_ (prefix_way_append_told more)
  exact (List.prefix_append_right_inj _).mpr ⟨[.told (report token files (reached + 1))], rfl⟩

/-! ## Marks of walks whose timer waits for nothing -/

/-- What may have happened in a walk that has no tick scheduled, given whether its session is
terminated: part of the course, in the middle of a tick or to its end; the end of the session
breaks it off, and a tick that was scheduled by then still comes. -/
inductive Lawful (token : ℤ) (files : ℕ) : (stopped : Bool) → List Mark → Prop
  | going {marks : List Mark} (within : marks <+: course token files)
      (inside : ∀ reached < files, marks ≠ way token files reached) :
      Lawful token files false marks
  | cut {marks : List Mark} (within : marks <+: course token files) :
      Lawful token files true (marks ++ [.terminated])
  | late {reached : ℕ} (more : reached < files) {late : List Mark}
      (within : late <+: [.ticked, .returned]) :
      Lawful token files true (way token files reached ++ .terminated :: late)
  | last : Lawful token files true (way token files (files - 1) ++ last token files ++
      [.terminated, .returned])

theorem Lawful.between {marks : List Mark} (within : marks <+: course token files)
    (between : ∀ reached < files, marks.length ≠ 3 * reached + 1) :
    Lawful token files false marks :=
  .going within fun reached less same => between reached less (by rw [same, length_way])

end Walk

/-! ## Ticks that came back

Between two ticks as many have come back as files are indexed, so their number says how far a
walk has come. The last tick is the only one that comes back at the end. -/

def Event.isReturnOf (index : ℕ) : Event → Bool
  | .tickReturned timer _ _ => timer == index
  | _ => false

def finishedTicks (session : Session) (index : ℕ) : ℕ :=
  session.history.countP (Event.isReturnOf index)

def Mark.isReturned : Mark → Bool
  | .returned => true
  | _ => false

theorem countP_marks (session : Session) (index : ℕ) (token : ℤ) :
    (session.marks index token).countP Mark.isReturned = session.finishedTicks index := by
  rw [marks, List.countP_filterMap, List.countP_reverse, finishedTicks]
  congr 1
  funext event
  cases event with
  | sent | ticked | tickReturned | indexed =>
      simp only [Event.mark?, Event.isReturnOf]
      split <;> simp_all [Mark.isReturned]
  | _ => rfl

namespace Walk

theorem countP_way (token : ℤ) (files reached : ℕ) :
    (way token files reached).countP Mark.isReturned = reached := by
  induction reached with
  | zero => rfl
  | succ reached induction =>
      rw [way_succ, List.countP_append, induction]
      rfl

theorem eq_course_of_countP {marks : List Mark} (any : 0 < files)
    (within : marks <+: course token files) (all : marks.countP Mark.isReturned = files) :
    marks = course token files := by
  rw [course, ← List.append_assoc] at within ⊢
  rcases List.prefix_concat_iff.mp within with same | less
  · exact same
  · have most := less.countP_le (p := Mark.isReturned)
    rw [all, List.countP_append, countP_way] at most
    have none : (last token files).countP Mark.isReturned = 0 := rfl
    omega

private theorem told_way (token : ℤ) (files reached : ℕ) :
    (way token files reached).filterMap Mark.told? =
      opening token :: reports token files reached := by
  induction reached with
  | zero => rfl
  | succ reached induction =>
      rw [way_succ, List.filterMap_append, induction, reports_succ]
      rfl

theorem told_course (token : ℤ) (any : 0 < files) :
    (course token files).filterMap Mark.told? = walk token files := by
  have all : files - 1 + 1 = files := Nat.sub_add_cancel any
  have reports := reports_succ token files (files - 1)
  rw [all] at reports
  rw [course, List.filterMap_append, told_way, walk, reports]
  simp only [last, List.cons_append, List.append_assoc]
  rfl

end Walk

end RpcSession.Session
