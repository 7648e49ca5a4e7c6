import RpcSession.Proofs.Likeness.Run

/-!
# The history is only written

Nothing that a session does depends on what its history says: in a session with another history
the same happens, and the same is added to it.
-/

namespace RpcSession.Session

open Likeness

variable {α β : Type}

def withHistory (session : Session) (history : List Event) : Session := { session with history }

/-- An action that adds to the history and reads nothing of it. -/
def Blind (action : Action Session α) : Prop :=
  ∀ session : Session, ∃ recent, (action session).2.history = recent ++ session.history ∧
    ∀ history, action (session.withHistory history) =
      ((action session).1, (action session).2.withHistory (recent ++ history))

/-! ## Sessions with two pasts -/

def samePresent (one other : List Event) : Likeness where
  related first second := ∃ recent, first.history = recent ++ one ∧
    second = first.withHistory (recent ++ other)
  own _ := True
  spoiled _ := False
  spoiled_append := False.elim
  rest := by
    rintro first _ ⟨recent, _, rfl⟩
    exact ⟨first.exchanges, recent ++ other, rfl⟩

theorem Blind.of_respects {action : Action Session α}
    (respects : ∀ one other, (samePresent one other).Respects action) : Blind action := by
  intro session
  rcases (respects session.history []).grows session with ⟨recent, grown⟩
  refine ⟨recent, grown.symm, fun history => ?_⟩
  have related : (samePresent session.history history).related session
      (session.withHistory history) := ⟨[], rfl, rfl⟩
  rcases (respects session.history history).keeps related with
    spoiled | ⟨same, added, grownToo, after⟩
  · exact spoiled.elim
  · rw [← grown] at grownToo
    rw [List.append_cancel_right grownToo]
    exact Prod.ext same.symm after

variable {one other : List Event} {fuel : Nat}

namespace SamePresent

theorem record (event : Event) : (samePresent one other).Respects (record event) := by
  refine ⟨fun _ => List.suffix_cons _ _, ?_⟩
  rintro first _ ⟨recent, grown, rfl⟩
  exact .inr ⟨rfl, event :: recent, congrArg (event :: ·) grown, rfl⟩

theorem modify {change : Session → Session}
    (kept : ∀ session, (change session).history = session.history)
    (apart : ∀ session history,
      change (withHistory session history) = (change session).withHistory history) :
    (samePresent one other).Respects (Action.modify change) := by
  refine ⟨fun session => ⟨[], (kept session).symm⟩, ?_⟩
  rintro first _ ⟨recent, grown, rfl⟩
  exact .inr ⟨rfl, recent, (kept first).trans grown, apart first _⟩

/-- Unlike sessions of other likenesses these do not differ in their exchanges. -/
theorem get {next : Session → Action Session β}
    (goesOn : ∀ session, (samePresent one other).Respects (next session))
    (apart : ∀ session history, next (withHistory session history) = next session) :
    (samePresent one other).Respects (Action.get >>= next) := by
  refine .read goesOn ?_
  rintro first _ ⟨recent, _, rfl⟩
  exact apart first _

theorem takeIdentifier (use : IdentifierUse) :
    (samePresent one other).Respects (takeIdentifier use) := by
  refine ⟨fun _ => List.suffix_cons _ _, ?_⟩
  rintro first _ ⟨recent, grown, rfl⟩
  exact .inr ⟨rfl, .numbered use first.identifiers.next :: recent,
    congrArg (Event.numbered use first.identifiers.next :: ·) grown, rfl⟩

theorem settle (identifier : Int) (outcome : Except Failure Value) :
    (samePresent one other).Respects (settle identifier outcome) :=
  modify (fun _ => rfl) fun _ _ => rfl

private theorem deliver (invoke : Invoke) (identifier : Int) (answer : Answer) :
    (samePresent one other).Respects (deliver invoke (.exchange identifier) answer) := by
  refine get (fun session => ?_) fun _ _ => rfl
  split
  · exact .of_pure ()
  · split
    · exact record _
    · exact record _
    · exact (Respects.ofExcept _).bind fun outcome => settle identifier outcome

private theorem accept {answerable : Bool}
    (leads : (samePresent one other).Leads (run fuel) answerable) (method params : Value) :
    (samePresent one other).Respects (accept (run fuel) method params answerable) := by
  refine get (fun session => (record _).bind fun _ => ?_) fun _ _ => rfl
  split
  · exact .fail _
  · refine Respects.bind ?_ fun identifier => (record _).bind fun _ =>
      (leads method params identifier trivial).bind fun _ => .of_pure _
    exact (takeIdentifier _).bind fun identifier =>
      Respects.bind (modify (fun _ => rfl) fun _ _ => rfl) fun _ => .of_pure identifier

private theorem finishRequest (identifier : Int) (onAcknowledge : Option (Int → Program))
    (handled : Bool) :
    (samePresent one other).Respects (finishRequest identifier onAcknowledge handled) := by
  have concluded : (samePresent one other).Respects (conclude identifier) := by
    refine get (fun session => ?_) fun _ _ => rfl
    split
    · exact .of_pure _
    · exact (settle _ _).bind fun _ => .of_pure _
  refine concluded.bind fun outcome => (record _).bind fun _ => ?_
  cases onAcknowledge with
  | none => exact .of_pure _
  | some callback =>
      exact (record _).bind fun _ => Respects.bind (modify (fun _ => rfl) fun _ _ => rfl)
        fun _ => .of_pure _

theorem upheld (one other : List Event) : (samePresent one other).Upheld where
  noting event _ := record event
  changing change aside := by
    refine modify aside.apart.history fun session history => ?_
    have same : change (session.withHistory history) =
        { change session with exchanges := session.exchanges, history } :=
      aside.apart session session.exchanges history
    rw [same, ← aside.apart.exchanges session]
    rfl
  numbering use _ := takeIdentifier use
  naming name reference _ := modify (fun _ => rfl) fun _ _ => rfl
  finding name := by
    refine (find_respects _ _).bind fun found => get (fun session => ?_) fun _ _ => rfl
    split
    · exact .of_pure _
    · exact .fail _
  terminating := terminate_respects record (modify (fun _ => rfl) fun _ _ => rfl)
  responding invoke identifier answer :=
    (record _).bind fun _ => deliver invoke identifier answer
  delivering invoke identifier _ answer := deliver invoke identifier answer
  starting fuel admitted := start_respects record (takeIdentifier .session)
    (fun _ => modify (fun _ => rfl) fun _ _ => rfl) admitted
  requesting fuel leads method params onAcknowledge name := by
    refine ((accept leads method params).bind fun _ =>
      finishRequest _ onAcknowledge _).bind fun report => ?_
    cases name with
    | none => exact .of_pure _
    | some name => exact Respects.bind (modify (fun _ => rfl) fun _ _ => rfl) fun _ => .of_pure _
  notifying fuel leads method params := (accept leads method params).bind fun _ => .of_pure ()

end SamePresent

/-! ## Calls -/

theorem request_blind (fuel : Nat) (method params : Value)
    (onAcknowledge : Option (Int → Program)) :
    Blind (request (run fuel) method params onAcknowledge) :=
  .of_respects fun one other =>
    (SamePresent.upheld one other).request ((SamePresent.upheld one other).admits fuel) method
      params onAcknowledge

theorem notify_blind (fuel : Nat) (method params : Value) :
    Blind (notify (run fuel) method params) :=
  .of_respects fun one other =>
    (SamePresent.upheld one other).notify ((SamePresent.upheld one other).admits fuel) method
      params

end RpcSession.Session
