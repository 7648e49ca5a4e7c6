import RpcSession.Proofs.Indexing.Calls

/-!
# Timers without a walk

Timers of the host carry on no walk, nor do indexing timers whose number of files cannot be
counted. Whatever such a timer does, all walks stay on their course.
-/

namespace RpcSession.Session

variable {session middle after : Session} {index : ℕ} {token : ℤ} {files : ℕ} {fuel : ℕ}
  {invoke : Invoke}

def Strays (session : Session) (index : ℕ) : Prop :=
  ∃ callback, session.callback? index = some callback ∧
    ∀ token files onFinish, callback = .indexing token (files : ℕ) onFinish →
      ¬(0 < files ∧ files ≤ mostFiles)

theorem Strays.not_tracks (strays : session.Strays index) :
    ¬session.Tracks index token files := by
  rintro ⟨any, few, onFinish, found⟩
  rcases strays with ⟨callback, same, other⟩
  exact other token files onFinish (Option.some.inj (same.symm.trans found)) ⟨any, few⟩

theorem Strays.later {own : ℕ → ℤ → Prop} (strays : session.Strays index)
    (later : Later own session after) : after.Strays index := by
  rcases strays with ⟨callback, same, other⟩
  exact ⟨callback, later.callbacks index callback same, other⟩

theorem Allows.strays (allowed : session.Allows (.timer index)) : session.Strays index := by
  rcases allowed with ⟨program, found⟩
  exact ⟨_, found, fun _ _ _ same => by cases same⟩

theorem Strays.found (strays : session.Strays index) :
    ∃ timer, session.timer? index = some timer := by
  rcases strays with ⟨callback, same, _⟩
  rcases Option.map_eq_some_iff.mp same with ⟨timer, found, _⟩
  exact ⟨timer, found⟩

/-- A step that touches one timer only, which carries on no walk. -/
theorem OnCourse.astray (onCourse : OnCourse session) (strays : session.Strays index)
    (spares : Spares (ofTimer index) session after) (clocked : Clocked after) :
    Goes nobody session after := by
  refine onCourse.beside spares clocked (fun other token own => .inl ?_)
    fun other token files tracks own => ?_
  · rw [spares.length]
    rcases strays with ⟨callback, same, _⟩
    cases own
    exact lt_of_callback? same
  · cases own
    exact strays.not_tracks tracks

theorem startTimer_keeps (strays : session.Strays index) : Keeps session (startTimer index) := by
  rcases strays.found with ⟨timer, found⟩
  apply Keeps.get
  rw [found]
  dsimp only
  split
  · exact .pure ()
  · rename_i idle
    rw [Bool.or_eq_true, not_or, Bool.not_eq_true, Bool.not_eq_true] at idle
    intro onCourse
    exact onCourse.astray strays (.scheduling session index timer.delay)
      (onCourse.clocked.scheduling timer.delay found idle.2)

theorem stopTimer_keeps (strays : session.Strays index) : Keeps session (stopTimer index) := by
  rcases strays.found with ⟨timer, found⟩
  intro onCourse
  rw [stopTimer_apply found]
  exact onCourse.astray strays (.stopping onCourse.clocked found) (onCourse.clocked.stopping found)

theorem finishTick_keeps (strays : session.Strays index) (outcome : Except Failure Unit) :
    Keeps session (finishTick index outcome) := by
  rcases strays.found with ⟨timer, found⟩
  intro onCourse
  rw [finishTick_apply found]
  exact onCourse.astray strays (.returning onCourse.clocked found outcome)
    (onCourse.clocked.returning outcome found)

theorem indexed_keeps (taken : token < session.identifiers.next)
    (free : ∀ index files, ¬session.Tracks index token files) :
    Keeps session (record (.indexed token)) := by
  intro onCourse
  have spares : Spares (ofToken token) session (session.noting (.indexed token)) :=
    .noting session fun _ _ foreign => if_neg (Ne.symm foreign)
  refine onCourse.beside spares (onCourse.clocked.aside rfl rfl rfl)
    (fun index token own => .inr ?_) fun index token files tracks own => ?_
  · cases own
    exact taken
  · cases own
    exact free index files tracks

section

variable {files : ℤ} {onFinish : Option Program} {start : Session}

/-- Whatever happens meanwhile, the token of a timer is no token of a walk of another. -/
theorem Strays.free (strays : start.Strays index)
    (found : start.callback? index = some (.indexing token files onFinish))
    (onCourse : OnCourse session) (later : Later nobody start session) :
    token < session.identifiers.next ∧ ∀ other number, ¬session.Tracks other token number := by
  have still := later.callbacks _ _ found
  refine ⟨onCourse.taken index token files onFinish still, fun other number tracks => ?_⟩
  rcases tracks with ⟨any, few, onFinishOther, foundToo⟩
  cases onCourse.alone _ _ _ _ _ _ _ still foundToo
  exact (strays.later later).not_tracks ⟨any, few, onFinishOther, foundToo⟩

theorem completion_keeps (keeping : Invoke.Keeps (run fuel))
    (found : start.callback? index = some (.indexing token files onFinish))
    (strays : start.Strays index) (later : Later nobody start session) {progress : Progress}
    (own : progress.token = token) (message : Value) (text : String) (called : Option Program) :
    Keeps session (do
      finish (run fuel) progress message
      stopTimer index
      log .info "demo" text
      record (.indexed token)
      if let some callback := called then
        let _ ← run fuel callback) := by
  intro onCourse
  have unheld := strays.free found onCourse later
  rw [← own] at unheld
  refine Keeps.bind (finish_keeps unheld.1 unheld.2 _) ?_ onCourse
  intro _ finished _ goes
  have later := later.trans goes.later
  apply (stopTimer_keeps (strays.later later)).bind
  intro _ stopped _ goes
  have later := later.trans goes.later
  apply (log_keeps _ _ _).bind
  intro _ logged _ goes
  have unheld := strays.free found goes.onCourse (later.trans goes.later)
  apply (indexed_keeps unheld.1 unheld.2).seq
  intro _ last
  split
  · exact (keeping _ _).seq fun _ _ => .pure ()
  · exact .pure ()

theorem indexFile_keeps (keeping : Invoke.Keeps (run fuel))
    (found : session.callback? index = some (.indexing token files onFinish))
    (strays : session.Strays index) (called : Option Program) (indexed : ℕ) :
    Keeps session (indexFile (run fuel) index token files called indexed) := by
  rw [indexFile.eq_def]
  apply Keeps.get
  split
  · exact stopTimer_keeps strays
  · split
    · exact .pure ()
    · rename_i progress held
      cases percentageOf indexed files with
      | error failure => exact .fail failure
      | ok percentage =>
          rw [Action.ofExcept_ok_bind]
          intro onCourse
          have unheld := strays.free found onCourse (.refl session)
          rw [← progress?_token held] at unheld
          refine Keeps.bind (update_keeps unheld.1 unheld.2 _) ?_ onCourse
          intro _ updated _ goes
          apply Keeps.get
          split
          · exact .pure ()
          · rename_i current heldToo
            split
            · exact completion_keeps keeping found strays goes.later (progress?_token heldToo) _ _ _
            · exact .pure ()

end

end RpcSession.Session
