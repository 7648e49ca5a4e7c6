import RpcSession.Proofs.Change

/-!
# Actions as series of changes

What an action does to a session is a series of changes, provided that the callbacks that it runs
do no more than that.
-/

namespace RpcSession.Session

variable {α β : Type} {since : Int} {session after : Session}

/-! ## Series of changes

What holds of a session and is preserved by every change holds at every later moment. -/

theorem Changes.next_le (changes : Changes since session after) :
    session.identifiers.next ≤ after.identifiers.next := by
  induction changes with
  | refl => exact Int.le_refl _
  | tail _ change induction =>
      rcases change.records with ⟨recent, records⟩
      have counted := records.counted
      omega

theorem Changes.history_suffix (changes : Changes since session after) :
    ∃ recent, after.history = recent ++ session.history := by
  induction changes with
  | refl => exact ⟨[], rfl⟩
  | tail _ change induction =>
      rcases change.history_suffix with ⟨latest, same⟩
      rcases induction with ⟨recent, history⟩
      exact ⟨latest ++ recent, by rw [← same, history, List.append_assoc]⟩

theorem Changes.preserves {holds : Session → Prop} (changes : Changes since session after)
    (initially : holds session)
    (step : ∀ before next, holds before → Change since before next → holds next) :
    holds after := by
  induction changes with
  | refl => exact initially
  | tail _ change induction => exact step _ _ induction change

theorem Changes.single (change : Change since session after) : Changes since session after :=
  Relation.ReflTransGen.single change

theorem Change.launcher_eq (change : Change since session after) :
    after.launcher = session.launcher := by
  cases change with
  | answered responder answer =>
      unfold answering
      split <;> rfl
  | fired tick =>
      unfold firing
      split <;> rfl
  | tickReturned index timer outcome =>
      rcases session.returning_cases index timer outcome with same | same | ⟨entry, same⟩ <;>
        rw [same] <;> rfl
  | _ => rfl

theorem Changes.launcher_eq (changes : Changes since session after) :
    after.launcher = session.launcher := by
  induction changes with
  | refl => rfl
  | tail _ change induction => exact change.launcher_eq.trans induction

private theorem Change.timers_le (change : Change since session after) :
    session.timers.length ≤ after.timers.length := by
  cases change with
  | timerCreated => simp
  | tickScheduled => simp [scheduling]
  | timerStopped => simp [stopping, noting]
  | answered responder answer =>
      unfold answering
      split <;> exact Nat.le_refl _
  | fired tick =>
      unfold firing
      split <;> simp [clearing, noting]
  | tickReturned index timer outcome =>
      rcases session.returning_cases index timer outcome with same | same | ⟨entry, same⟩ <;>
        simp [same, scheduling, stopping, noting]
  | _ => exact Nat.le_refl _

theorem Changes.timer?_isSome {index : Nat} (changes : Changes since session after)
    (found : (session.timer? index).isSome = true) : (after.timer? index).isSome = true := by
  induction changes with
  | refl => exact found
  | tail _ change induction =>
      rw [timer?, isSome_getElem?] at induction ⊢
      exact Nat.lt_of_lt_of_le induction change.timers_le

/-- An action that a session entered when its next identifier was `since` or later changes it by
a series of changes. -/
def Moves (since : Int) (session : Session) (action : Action Session α) : Prop :=
  since ≤ session.identifiers.next → Changes since session (action session).2

def Invoke.Moves (invoke : Invoke) : Prop :=
  ∀ program since session, Session.Moves since session (invoke program)

namespace Moves

theorem of_change {action : Action Session α}
    (change : Change since session (action session).2) : Moves since session action :=
  fun _ => Changes.single change

theorem of_eq {action : Action Session α} (unchanged : (action session).2 = session) :
    Moves since session action := by
  intro _
  rw [unchanged]
  exact .refl

theorem pure (value : α) : Moves since session (pure value : Action Session α) := of_eq rfl

theorem fail (failure : Failure) : Moves since session (Action.fail failure : Action Session α) :=
  of_eq rfl

theorem exhausted : Moves since session (Action.exhausted : Action Session α) := of_eq rfl

theorem ofExcept (result : Except Failure α) : Moves since session (Action.ofExcept result) := by
  cases result with
  | ok value => exact pure value
  | error failure => exact fail failure

theorem step {action following : Action Session α} (change : Change since session after)
    (same : action session = following after) (rest : Moves since after following) :
    Moves since session action := by
  intro entered
  rw [same]
  have changes : Changes since session after := .single change
  exact changes.trans (rest (Int.le_trans entered changes.next_le))

theorem bind {action : Action Session α} {next : α → Action Session β}
    (first : Moves since session action)
    (rest : ∀ value, (action session).1 = .value value →
      Moves since (action session).2 (next value)) :
    Moves since session (action >>= next) := by
  intro entered
  have changes := first entered
  rw [Action.bind_apply]
  cases result : action session with
  | mk outcome middle =>
      rw [result] at changes rest
      cases outcome with
      | value value => exact changes.trans (rest value rfl (Int.le_trans entered changes.next_le))
      | failed failure => exact changes
      | exhausted => exact changes

theorem seq {action : Action Session α} {next : α → Action Session β}
    (first : Moves since session action)
    (rest : ∀ value middle, Moves since middle (next value)) :
    Moves since session (action >>= next) :=
  first.bind fun value _ => rest value _

theorem map {action : Action Session α} (first : Moves since session action)
    (transform : α → β) : Moves since session (transform <$> action) := by
  rw [← bind_pure_comp]
  exact first.seq fun _ _ => pure _

theorem get {next : Session → Action Session β} (rest : Moves since session (next session)) :
    Moves since session (Action.get >>= next) := rest

theorem modify {transform : Session → Session} {next : Unit → Action Session β}
    (change : Change since session (transform session))
    (rest : Moves since (transform session) (next ())) :
    Moves since session (Action.modify transform >>= next) := step change rfl rest

theorem attempt {action : Action Session α} (moves : Moves since session action) :
    Moves since session (Action.attempt action) := by
  intro entered
  rw [Action.attempt_state]
  exact moves entered

theorem recover {action : Action Session α} {handler : Failure → Action Session α}
    (moves : Moves since session action)
    (handled : ∀ failure middle, Moves since middle (handler failure)) :
    Moves since session (Action.recover action handler) := by
  apply moves.attempt.seq
  intro result middle
  cases result with
  | ok value => exact pure value
  | error failure =>
      change Moves since middle (if _ then _ else _)
      split
      · exact handled failure middle
      · exact fail failure

end Moves

/-! ## Remarks, names and memory -/

@[simp] theorem record_apply (event : Event) (session : Session) :
    record event session = (.value (), session.noting event) := rfl

theorem record_moves {event : Event} (remark : event.isRemark = true) :
    Moves since session (record event) := .of_change (.remarked event remark)

theorem log_moves (level : Logging.Level) (logger message : String)
    (failure : Option Failure := none) :
    Moves since session (log level logger message failure) := record_moves rfl

theorem bindName_moves (name : String) (reference : Reference) :
    Moves since session (bindName name reference) := .of_change (.named name reference)

end RpcSession.Session
