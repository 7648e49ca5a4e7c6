import RpcSession.Failure

/-!
# Actions

An action changes a state and comes to a value or a failure; either way the changes made so far
stay. Actions are run with limited fuel: one that runs out of it is cut short, which nothing
inside can handle, so what holds of every outcome holds at every moment of an endless run too.
-/

namespace RpcSession

inductive Outcome (α : Type) where
  | value (value : α)
  | failed (failure : Failure)
  | exhausted

def Action (σ α : Type) : Type := σ → Outcome α × σ

namespace Action

variable {σ α β : Type}

protected def pure (value : α) : Action σ α := fun state => (.value value, state)

protected def bind (action : Action σ α) (next : α → Action σ β) : Action σ β := fun state =>
  match action state with
  | (.value value, state) => next value state
  | (.failed failure, state) => (.failed failure, state)
  | (.exhausted, state) => (.exhausted, state)

instance : Monad (Action σ) where
  pure := Action.pure
  bind := Action.bind

def get : Action σ σ := fun state => (.value state, state)

def modify (change : σ → σ) : Action σ Unit := fun state => (.value (), change state)

def fail (failure : Failure) : Action σ α := fun state => (.failed failure, state)

def exhausted : Action σ α := fun state => (.exhausted, state)

def ofExcept : Except Failure α → Action σ α
  | .ok value => pure value
  | .error failure => fail failure

/-- The outcome of an action as a value. -/
def attempt (action : Action σ α) : Action σ (Except Failure α) := fun state =>
  match action state with
  | (.value value, state) => (.value (.ok value), state)
  | (.failed failure, state) => (.value (.error failure), state)
  | (.exhausted, state) => (.exhausted, state)

/-- An action whose ordinary failures are handled; an abort goes on. -/
def recover (action : Action σ α) (handler : Failure → Action σ α) : Action σ α := do
  match ← attempt action with
  | .ok value => pure value
  | .error failure => if failure.isOrdinary then handler failure else fail failure

@[simp] theorem pure_apply (value : α) (state : σ) :
    (pure value : Action σ α) state = (.value value, state) := rfl

@[simp] theorem get_apply (state : σ) : get state = (.value state, state) := rfl

@[simp] theorem modify_apply (change : σ → σ) (state : σ) :
    modify change state = (.value (), change state) := rfl

@[simp] theorem fail_apply (failure : Failure) (state : σ) :
    (fail failure : Action σ α) state = (.failed failure, state) := rfl

@[simp] theorem exhausted_apply (state : σ) :
    (exhausted : Action σ α) state = (.exhausted, state) := rfl

theorem bind_apply (action : Action σ α) (next : α → Action σ β) (state : σ) :
    (action >>= next) state = match action state with
      | (.value value, state) => next value state
      | (.failed failure, state) => (.failed failure, state)
      | (.exhausted, state) => (.exhausted, state) := rfl

theorem bind_of_value {action : Action σ α} {next : α → Action σ β} {state after : σ} {value : α}
    (result : action state = (.value value, after)) :
    (action >>= next) state = next value after := by
  rw [bind_apply, result]

theorem bind_of_failed {action : Action σ α} {next : α → Action σ β} {state : σ}
    {failure : Failure} (failed : (action state).1 = .failed failure) :
    ((action >>= next) state).1 = .failed failure := by
  rw [bind_apply]
  generalize action state = result at failed
  rcases result with ⟨outcome, after⟩
  cases failed
  rfl

theorem value_of_bind {action : Action σ α} {next : α → Action σ β} {state after : σ}
    {result : β} (came : (action >>= next) state = (.value result, after)) :
    ∃ value middle, action state = (.value value, middle) ∧
      next value middle = (.value result, after) := by
  rw [bind_apply] at came
  cases first : action state with
  | mk outcome middle =>
      rw [first] at came
      cases outcome with
      | value value => exact ⟨value, middle, rfl, came⟩
      | failed failure => cases came
      | exhausted => cases came

/-- A sequence fails with its first action or with what follows it. -/
theorem failed_of_bind {action : Action σ α} {next : α → Action σ β} {state after : σ}
    {failure : Failure} (failed : (action >>= next) state = (.failed failure, after)) :
    action state = (.failed failure, after) ∨
      ∃ value middle, action state = (.value value, middle) ∧
        next value middle = (.failed failure, after) := by
  rw [bind_apply] at failed
  cases first : action state with
  | mk outcome middle =>
      rw [first] at failed
      cases outcome with
      | value value => exact .inr ⟨value, middle, rfl, failed⟩
      | failed failure =>
          cases failed
          exact .inl rfl
      | exhausted => cases failed

/-- What is made of the value of an action changes no state. -/
theorem bind_pure_state (action : Action σ α) (next : α → β) (state : σ) :
    ((action >>= fun value => pure (next value)) state).2 = (action state).2 := by
  rw [bind_apply]
  rcases action state with ⟨outcome, after⟩
  cases outcome <;> rfl

theorem ofExcept_ok_bind (value : α) (next : α → Action σ β) :
    (ofExcept (.ok value) >>= next) = next value := rfl

@[simp] theorem get_bind_apply (next : σ → Action σ β) (state : σ) :
    (get >>= next) state = next state state := rfl

/-- Whatever comes of an action, trying it changes the state in the same way. -/
@[simp] theorem attempt_state (action : Action σ α) (state : σ) :
    (attempt action state).2 = (action state).2 := by
  unfold attempt
  split <;> simp_all

/-- An attempt has no failure of its own. -/
theorem attempt_cases (action : Action σ α) (state : σ) :
    attempt action state = (.exhausted, (action state).2) ∨
      ∃ result, attempt action state = (.value result, (action state).2) := by
  unfold attempt
  split <;> simp_all

theorem recover_apply (action : Action σ α) (handler : Failure → Action σ α) (state : σ) :
    recover action handler state = match action state with
      | (.value value, state) => (.value value, state)
      | (.failed failure, state) =>
          if failure.isOrdinary then handler failure state else (.failed failure, state)
      | (.exhausted, state) => (.exhausted, state) := by
  unfold recover
  rw [bind_apply, attempt]
  cases action state with
  | mk outcome after =>
      cases outcome with
      | value value => rfl
      | exhausted => rfl
      | failed failure =>
          dsimp only
          split <;> rfl

/-- A failure that is only raised again is not handled. -/
theorem recover_fail (action : Action σ α) : recover action fail = action := by
  funext state
  rw [recover_apply]
  rcases action state with ⟨outcome, after⟩
  cases outcome with
  | failed failure =>
      dsimp only
      split <;> rfl
  | _ => rfl

theorem bind_pure (action : Action σ α) : action >>= pure = action := by
  funext state
  rw [bind_apply]
  cases action state with
  | mk outcome after => cases outcome <;> rfl

theorem bind_assoc {γ : Type} (action : Action σ α) (next : α → Action σ β)
    (following : β → Action σ γ) :
    action >>= next >>= following = action >>= fun value => next value >>= following := by
  funext state
  simp only [bind_apply]
  cases action state with
  | mk outcome after => cases outcome <;> rfl

instance : LawfulMonad (Action σ) :=
  LawfulMonad.mk' _ bind_pure (fun _ _ => rfl) bind_assoc

end Action

end RpcSession
