import RpcSession.Proofs.Indexing.Steps

/-!
# Actions that keep the course

An action keeps the course of a session if all walks are on their course when it is over, and those
that have no tick scheduled are as it found them. Of progresses and timers, what the host can reach
by its names belongs to no walk.
-/

namespace RpcSession.Session

variable {α β : Type} {session after : Session} {index : ℕ} {token : ℤ} {fuel : ℕ}

def Keeps (session : Session) (action : Action Session α) : Prop :=
  OnCourse session → Goes nobody session (action session).2

def Invoke.Keeps (invoke : Invoke) : Prop :=
  ∀ program session, Session.Keeps session (invoke program)

theorem Goes.trans {own : ℕ → ℤ → Prop} {middle : Session} (first : Goes own session middle)
    (second : Goes own middle after) : Goes own session after :=
  ⟨second.onCourse, first.later.trans second.later⟩

theorem Goes.of_nobody {own : ℕ → ℤ → Prop} (goes : Goes nobody session after) :
    Goes own session after := ⟨goes.onCourse, goes.later.mono fun _ _ => False.elim⟩

namespace Keeps

theorem of_eq {action : Action Session α} (unchanged : (action session).2 = session) :
    Keeps session action := by
  intro onCourse
  rw [unchanged]
  exact ⟨onCourse, .refl session⟩

theorem pure (value : α) : Keeps session (pure value : Action Session α) := of_eq rfl

theorem fail (failure : Failure) : Keeps session (Action.fail failure : Action Session α) :=
  of_eq rfl

theorem exhausted : Keeps session (Action.exhausted : Action Session α) := of_eq rfl

theorem ofExcept (result : Except Failure α) : Keeps session (Action.ofExcept result) := by
  cases result with
  | ok value => exact pure value
  | error failure => exact fail failure

theorem of_aside {action : Action Session α} (aside : Aside session (action session).2) :
    Keeps session action := fun onCourse => onCourse.aside aside

theorem bind {action : Action Session α} {next : α → Action Session β}
    (first : Keeps session action)
    (rest : ∀ value middle, action session = (.value value, middle) →
      Goes nobody session middle → Keeps middle (next value)) :
    Keeps session (action >>= next) := by
  intro onCourse
  have goes := first onCourse
  rw [Action.bind_apply]
  cases result : action session with
  | mk outcome middle =>
      rw [result] at goes
      cases outcome with
      | value value => exact goes.trans (rest value middle result goes goes.onCourse)
      | failed failure => exact goes
      | exhausted => exact goes

theorem seq {action : Action Session α} {next : α → Action Session β}
    (first : Keeps session action) (rest : ∀ value middle, Keeps middle (next value)) :
    Keeps session (action >>= next) :=
  first.bind fun value middle _ _ => rest value middle

theorem map {action : Action Session α} (first : Keeps session action) (transform : α → β) :
    Keeps session (transform <$> action) := by
  rw [← bind_pure_comp]
  exact first.seq fun _ _ => pure _

theorem get {next : Session → Action Session β} (rest : Keeps session (next session)) :
    Keeps session (Action.get >>= next) := rest

theorem attempt {action : Action Session α} (keeps : Keeps session action) :
    Keeps session (Action.attempt action) := by
  intro onCourse
  rw [Action.attempt_state]
  exact keeps onCourse

theorem recover {action : Action Session α} {handler : Failure → Action Session α}
    (keeps : Keeps session action) (handled : ∀ failure middle, Keeps middle (handler failure)) :
    Keeps session (Action.recover action handler) := by
  apply keeps.attempt.seq
  intro result middle
  cases result with
  | ok value => exact pure value
  | error failure =>
      change Keeps middle (if _ then _ else _)
      split
      · exact handled failure middle
      · exact fail failure

end Keeps

/-! ## Changes aside -/

theorem record_keeps {event : Event} (unmarked : event.isMarking = false) :
    Keeps session (record event) := .of_aside (.noting session unmarked)

theorem log_keeps (level : Logging.Level) (logger message : String)
    (failure : Option Failure := none) :
    Keeps session (log level logger message failure) := record_keeps rfl

theorem modify_keeps {change : Session → Session} (aside : Aside session (change session)) :
    Keeps session (Action.modify change) := .of_aside aside

theorem takeIdentifier_keeps (use : IdentifierUse) : Keeps session (takeIdentifier use) :=
  .of_aside ⟨rfl, rfl, Int.le_of_lt (Int.lt_succ _), fun _ => .inl, rfl, rfl, rfl, rfl,
    [.numbered use session.identifiers.next], rfl, by simp [Event.isMarking]⟩

theorem bindName_keeps (name : String) {reference : Reference}
    (allowed : session.Allows reference) : Keeps session (bindName name reference) := by
  refine .of_aside ⟨rfl, rfl, Int.le_refl _, fun entry member => ?_, rfl, rfl, rfl, rfl, [], rfl,
    by simp⟩
  rcases List.mem_cons.mp member with rfl | before
  · refine .inr (allowed.later (Int.le_refl _) fun _ => rfl)
  · exact .inl before

theorem settle_keeps (identifier : Int) (outcome : Except Failure Value) :
    Keeps session (settle identifier outcome) :=
  modify_keeps (.of_eq rfl)

/-! ## Progresses -/

theorem OnCourse.announcing (onCourse : OnCourse session) (entry : LogEntry) {progress : Progress}
    (taken : progress.token < session.identifiers.next)
    (free : ∀ index files, ¬session.Tracks index progress.token files) :
    Goes nobody session (session.announcing entry progress) := by
  refine onCourse.beside (.announcing session entry progress) (onCourse.clocked.aside rfl rfl rfl)
    (fun index token own => .inr ?_) fun index token files tracks own => ?_
  · cases own
    exact taken
  · cases own
    exact free index files tracks

theorem emit_keeps {progress : Progress} (taken : progress.token < session.identifiers.next)
    (free : ∀ index files, ¬session.Tracks index progress.token files) :
    Keeps session (emit (run fuel) progress) := by
  intro onCourse
  cases stopped : session.lifecycle.stopped with
  | true =>
      rw [emit_of_stopped session (run fuel) progress stopped]
      exact log_keeps _ _ _ _ onCourse
  | false =>
      have announced := onCourse.announcing (progressEntry progress) taken free
      rcases emit_of_quiet fuel onCourse.quiet stopped progress with
        ⟨after, undisturbed, same | same⟩ <;> rw [same]
      · exact announced.trans (announced.onCourse.aside (.of_undisturbed undisturbed))
      · exact announced.trans (announced.onCourse.aside (.of_undisturbed undisturbed))

theorem setProgress_emit_keeps {progress : Progress}
    (taken : progress.token < session.identifiers.next)
    (free : ∀ index files, ¬session.Tracks index progress.token files) :
    Keeps session (do setProgress progress; emit (run fuel) progress) := by
  intro onCourse
  have updated : Goes nobody session (session.updating progress) := by
    refine onCourse.beside (.updating session progress) (onCourse.clocked.aside rfl rfl rfl)
      (fun index token own => .inr ?_) fun index token files tracks own => ?_
    · cases own
      exact taken
    · cases own
      exact free index files tracks
  have told : Keeps (session.updating progress) (emit (run fuel) progress) :=
    emit_keeps taken free
  exact updated.trans (told updated.onCourse)

theorem reject_keeps (progress : Progress) (operation : String) :
    Keeps session (reject progress operation) := by
  apply Keeps.get
  split
  · exact .fail _
  · exact log_keeps _ _ _

theorem mergeFields_keeps {progress : Progress}
    (taken : progress.token < session.identifiers.next)
    (free : ∀ index files, ¬session.Tracks index progress.token files)
    (going : progress.isEnded = false) (fields : List (String × Value)) :
    Keeps session (mergeFields (run fuel) progress fields) := by
  rcases mergeFields_cases (run fuel) progress fields with
    ⟨_, same⟩ | ⟨_, ⟨failure, _, same⟩ | ⟨updated, result, same⟩⟩ <;> rw [same]
  · exact .pure ()
  · exact .fail failure
  · rw [← (Progress.follows_update going result).token] at taken free
    exact setProgress_emit_keeps taken free

theorem update_keeps {progress : Progress} (taken : progress.token < session.identifiers.next)
    (free : ∀ index files, ¬session.Tracks index progress.token files)
    (fields : List (String × Value)) : Keeps session (update (run fuel) progress fields) := by
  cases ended : progress.isEnded with
  | true =>
      rw [update_of_ended _ ended]
      exact reject_keeps _ _
  | false =>
      intro onCourse
      rcases update_going_cases (run fuel) session ended fields with same | ⟨entry, same⟩ <;>
        rw [same]
      · exact mergeFields_keeps taken free ended fields onCourse
      · have noted : Goes nobody session (session.noting (.logged entry)) :=
          onCourse.aside (.noting session rfl)
        have kept : Keeps (session.noting (.logged entry))
            (mergeFields (run fuel) progress fields) := by
          apply mergeFields_keeps _ _ ended
          · exact taken
          · exact free
        exact noted.trans (kept noted.onCourse)

theorem finish_keeps {progress : Progress} (taken : progress.token < session.identifiers.next)
    (free : ∀ index files, ¬session.Tracks index progress.token files) (message : Value) :
    Keeps session (finish (run fuel) progress message) := by
  unfold finish
  split
  · exact reject_keeps _ _
  · have token : (progress.finish message).token = progress.token := rfl
    rw [← token] at taken free
    exact setProgress_emit_keeps taken free

end RpcSession.Session
