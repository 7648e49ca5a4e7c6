import RpcSession.Proofs.Movement.Run

/-!
# Sessions that go on alike

Two sessions may differ in what their exchanges and histories say and still do the same, as long
as the difference is one that no code sees. What a likeness of sessions has to say about each kind
of step is said here; that every run keeps it follows in one walk over the operations.
-/

namespace RpcSession.Session

variable {α β : Type}

theorem Moves.grows {since : Int} {session : Session} {action : Action Session α}
    (moves : Moves since session action) (entered : since ≤ session.identifiers.next) :
    session.history <:+ (action session).2.history := by
  rcases (moves entered).history_suffix with ⟨recent, same⟩
  exact ⟨recent, same.symm⟩

/-- A likeness of sessions. Of exchanges that are not its own it allows that they differ, and once
the second history is spoiled nothing more is asked. -/
structure Likeness where
  related : Session → Session → Prop
  own : Int → Prop
  spoiled : List Event → Prop
  spoiled_append {recent history : List Event} : spoiled history → spoiled (recent ++ history)
  rest {first second : Session} : related first second →
    ∃ exchanges history, second = { first with exchanges, history }

namespace Likeness

variable {likeness : Likeness} {first second : Session}

theorem spoiled_of_suffix {earlier history : List Event} (spoiled : likeness.spoiled earlier)
    (suffix : earlier <:+ history) : likeness.spoiled history := by
  rcases suffix with ⟨recent, rfl⟩
  exact likeness.spoiled_append spoiled

/-- An action that does the same to both sessions of a likeness and adds to their histories. -/
structure Respects (likeness : Likeness) (action : Action Session α) : Prop where
  grows (session : Session) : session.history <:+ (action session).2.history
  keeps {first second : Session} (related : likeness.related first second) :
    likeness.spoiled (action second).2.history ∨
      (action first).1 = (action second).1 ∧
        likeness.related (action first).2 (action second).2

namespace Respects

theorem of_pure (value : α) : likeness.Respects (pure value : Action Session α) :=
  ⟨fun _ => List.suffix_refl _, fun related => .inr ⟨rfl, related⟩⟩

theorem fail (failure : Failure) : likeness.Respects (Action.fail failure : Action Session α) :=
  ⟨fun _ => List.suffix_refl _, fun related => .inr ⟨rfl, related⟩⟩

theorem exhausted : likeness.Respects (Action.exhausted : Action Session α) :=
  ⟨fun _ => List.suffix_refl _, fun related => .inr ⟨rfl, related⟩⟩

theorem ofExcept (result : Except Failure α) : likeness.Respects (Action.ofExcept result) := by
  cases result with
  | ok value => exact of_pure value
  | error failure => exact fail failure

theorem bind {action : Action Session α} {next : α → Action Session β}
    (begins : likeness.Respects action) (goesOn : ∀ value, likeness.Respects (next value)) :
    likeness.Respects (action >>= next) := by
  have grown (session : Session) :
      (action session).2.history <:+ ((action >>= next) session).2.history := by
    rw [Action.bind_apply]
    rcases action session with ⟨outcome, middle⟩
    cases outcome with
    | value value => exact (goesOn value).grows middle
    | failed failure => exact List.suffix_refl _
    | exhausted => exact List.suffix_refl _
  refine ⟨fun session => (begins.grows session).trans (grown session), ?_⟩
  intro first second related
  rcases begins.keeps related with spoiled | ⟨same, middle⟩
  · exact .inl (spoiled_of_suffix spoiled (grown second))
  · rw [Action.bind_apply, Action.bind_apply]
    generalize action first = one at same middle
    generalize action second = two at same middle
    rcases one with ⟨outcome, one⟩
    rcases two with ⟨other, two⟩
    cases same
    cases outcome with
    | value value => exact (goesOn value).keeps middle
    | failed failure => exact .inr ⟨rfl, middle⟩
    | exhausted => exact .inr ⟨rfl, middle⟩

theorem map {action : Action Session α} (respects : likeness.Respects action)
    (transform : α → β) : likeness.Respects (transform <$> action) := by
  rw [← bind_pure_comp]
  exact respects.bind fun _ => of_pure _

theorem of_map {action : Action Session α} (transform : α → β)
    (respects : likeness.Respects (transform <$> action))
    (distinct : ∀ one other, transform one = transform other → one = other) :
    likeness.Respects action := by
  rw [← bind_pure_comp] at respects
  have state := Action.bind_pure_state action transform
  refine ⟨fun session => ?_, fun {first second} related => ?_⟩
  · rw [← state]
    exact respects.grows session
  · rw [← state, ← state]
    refine (respects.keeps related).imp_right fun ⟨same, after⟩ => ⟨?_, after⟩
    rw [Action.bind_apply, Action.bind_apply] at same
    generalize action first = one at same
    generalize action second = two at same
    rcases one with ⟨outcome, one⟩
    rcases two with ⟨other, two⟩
    cases outcome <;> cases other <;> simp_all
    exact distinct _ _ same

theorem read {next : Session → Action Session β}
    (goesOn : ∀ session, likeness.Respects (next session))
    (same : ∀ {first second}, likeness.related first second → next second = next first) :
    likeness.Respects (Action.get >>= next) := by
  refine ⟨fun session => (goesOn session).grows session, ?_⟩
  intro first second related
  rw [Action.get_bind_apply, Action.get_bind_apply, same related]
  exact (goesOn first).keeps related

theorem get {next : Session → Action Session β}
    (goesOn : ∀ session, likeness.Respects (next session))
    (apart : ∀ session exchanges history,
      next { session with exchanges, history } = next session) :
    likeness.Respects (Action.get >>= next) := by
  refine .read goesOn fun related => ?_
  rcases likeness.rest related with ⟨exchanges, history, same⟩
  rw [congrArg next same, apart]

theorem attempt {action : Action Session α} (respects : likeness.Respects action) :
    likeness.Respects (Action.attempt action) := by
  refine ⟨fun session => ?_, fun {first second} related => ?_⟩
  · rw [Action.attempt_state]
    exact respects.grows session
  · rw [Action.attempt_state, Action.attempt_state]
    rcases respects.keeps related with spoiled | ⟨same, after⟩
    · exact .inl spoiled
    · refine .inr ⟨?_, after⟩
      unfold Action.attempt
      generalize action first = one at same
      generalize action second = two at same
      rcases one with ⟨outcome, one⟩
      rcases two with ⟨other, two⟩
      cases same
      cases outcome <;> rfl

theorem recover {action : Action Session α} {handler : Failure → Action Session α}
    (respects : likeness.Respects action)
    (handled : ∀ failure, likeness.Respects (handler failure)) :
    likeness.Respects (Action.recover action handler) := by
  apply respects.attempt.bind
  intro result
  cases result with
  | ok value => exact of_pure value
  | error failure =>
      change likeness.Respects (if _ then _ else _)
      split
      · exact handled failure
      · exact fail failure

end Respects

end Likeness

/-! ## Kinds of steps -/

def Event.isPlain : Event → Bool
  | .numbered _ _ | .arrived _ _ _ | .answered (.exchange _) _ | .concluded _ _
  | .acknowledgementDue _ | .launcherReturned _ | .started _ | .terminated => false
  | _ => true

/-- A change that does the same whatever a session says of its exchanges and its past. -/
def IsApart (change : Session → Session) : Prop :=
  ∀ session exchanges history,
    change { session with exchanges, history } = { change session with exchanges, history }

theorem IsApart.exchanges {change : Session → Session} (apart : IsApart change)
    (session : Session) : (change session).exchanges = session.exchanges := by
  have same := congrArg Session.exchanges (apart session session.exchanges session.history)
  exact same

theorem IsApart.history {change : Session → Session} (apart : IsApart change)
    (session : Session) : (change session).history = session.history := by
  have same := congrArg Session.history (apart session session.exchanges session.history)
  exact same

def IsAside (change : Session → Session) : Prop :=
  ∀ session exchanges history,
    change { session with exchanges, history } =
      { change session with
        identifiers := session.identifiers
        lifecycle := session.lifecycle
        launcher := session.launcher
        names := session.names
        exchanges
        history }

namespace IsAside

variable {change : Session → Session} (aside : IsAside change) (session : Session)

include aside

theorem apart : IsApart change := fun session exchanges history =>
  (aside session exchanges history).trans
    (congrArg (fun after : Session => { after with exchanges, history })
      (aside session session.exchanges session.history).symm)

theorem identifiers : (change session).identifiers = session.identifiers :=
  have same := congrArg Session.identifiers (aside session session.exchanges session.history)
  same

theorem lifecycle : (change session).lifecycle = session.lifecycle :=
  have same := congrArg Session.lifecycle (aside session session.exchanges session.history)
  same

theorem launcher : (change session).launcher = session.launcher :=
  have same := congrArg Session.launcher (aside session session.exchanges session.history)
  same

theorem names : (change session).names = session.names :=
  have same := congrArg Session.names (aside session session.exchanges session.history)
  same

end IsAside

def Reference.IsOfRequest : Reference → Prop
  | .request _ _ => True
  | _ => False

namespace Likeness

def Admits (likeness : Likeness) (invoke : Invoke) : Prop :=
  ∀ program, likeness.Respects (invoke program)

/-- What runs callbacks respects a likeness in the way of calls that are its own. -/
def Leads (likeness : Likeness) (invoke : Invoke) (answerable : Bool) : Prop :=
  ∀ method params identifier, likeness.own identifier →
    likeness.Respects (route invoke method params answerable identifier)

/-- A likeness that each step of an operation upholds. Calls and starts are taken as wholes. -/
structure Upheld (likeness : Likeness) : Prop where
  noting (event : Event) (plain : event.isPlain = true) : likeness.Respects (record event)
  changing (change : Session → Session) (aside : IsAside change) :
    likeness.Respects (Action.modify change)
  numbering (use : IdentifierUse) (free : use = .host ∨ use = .progress) :
    likeness.Respects (takeIdentifier use)
  naming (name : String) (reference : Reference) (other : ¬Reference.IsOfRequest reference) :
    likeness.Respects (bindName name reference)
  finding (name : String) : likeness.Respects (findRequest name)
  terminating : likeness.Respects terminate
  responding (invoke : Invoke) (identifier : Int) (answer : Answer) :
    likeness.Respects (respond invoke (.exchange identifier) answer)
  delivering (invoke : Invoke) {identifier : Int} (own : likeness.own identifier)
    (answer : Answer) : likeness.Respects (deliver invoke (.exchange identifier) answer)
  starting (fuel : Nat) (admitted : likeness.Admits (run fuel)) :
    likeness.Respects (start (run fuel))
  requesting (fuel : Nat) (leads : likeness.Leads (run fuel) true) (method params : Value)
    (onAcknowledge : Option (Int → Program)) (name : Option String) :
    likeness.Respects (perform fuel (.request method params onAcknowledge name))
  notifying (fuel : Nat) (leads : likeness.Leads (run fuel) false) (method params : Value) :
    likeness.Respects (notify (run fuel) method params)

end Likeness

end RpcSession.Session
