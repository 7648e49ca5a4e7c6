import RpcSession.Proofs.Acknowledgement.Delivery
import RpcSession.Proofs.Numbering

/-!
# Order of acknowledgements

Requests are numbered when they come in and acknowledged in the order in which they come back. So of
two requests one after the other the first is acknowledged first, and of two nested requests the
inner one, although its identifier is the greater one.
-/

namespace RpcSession.Session

variable {one other : Int} {history inside before : List Event}

private theorem dues_order {later : List Event} {method : Value} {outcome : Except Failure Value}
    (split : history = later ++ .acknowledgementDue other :: (.concluded other outcome ::
      inside ++ .numbered .request other :: .arrived method true true :: before))
    (nested : ∀ identifier ∈ dues inside, other < identifier)
    (sooner : ∀ identifier ∈ dues before, identifier < other) (less : one < other) :
    (.acknowledgementDue one ∈ before →
      (dues history).idxOf one < (dues history).idxOf other) ∧
    (.acknowledgementDue one ∉ before →
      (dues history).idxOf other < (dues history).idxOf one) := by
  have order : dues history = dues before ++ (dues inside ++ other :: dues later) := by
    rw [split]
    simp [dues_append, dues_cons, Event.due?]
  have fresh : other ∉ dues before := fun member => Int.lt_irrefl _ (sooner other member)
  have outside : one ∉ dues inside := fun member => by
    have greater := nested one member
    omega
  have unnested : other ∉ dues inside := fun member => Int.lt_irrefl _ (nested other member)
  rw [order, List.idxOf_append_of_notMem fresh]
  constructor
  · intro earlier
    have listed := mem_dues.mpr earlier
    rw [List.idxOf_append_of_mem listed]
    have place := List.idxOf_lt_length_of_mem listed
    omega
  · intro unlisted
    rw [← mem_dues] at unlisted
    rw [List.idxOf_append_of_notMem unlisted, List.idxOf_append_of_notMem outside,
      List.idxOf_append_of_notMem unnested, List.idxOf_cons_self, List.idxOf_cons_ne]
    · omega
    · omega

/-- Of two requests that were acknowledged the one with the smaller identifier was acknowledged
first if it had come back when the other one came in, and only then: of nested requests the inner
one is acknowledged first. -/
theorem acknowledgement_order {start : Session} (new : start.IsNew)
    (operations : List (Nat × Operation Program)) (one other : Int) (less : one < other) :
    let history := (start.after operations).history
    one ∈ acknowledgements history → other ∈ acknowledgements history →
      (∃ later earlier, history = later ++ .numbered .request other :: earlier) ∧
      ∀ later earlier, history = later ++ .numbered .request other :: earlier →
        let place := (acknowledgements history).idxOf
        (place one < place other ↔ .acknowledgementDue one ∈ earlier) ∧
        (place other < place one ↔ .acknowledgementDue one ∉ earlier) := by
  intro history first second
  have queued : Queued (start.after operations) :=
    after_preserves (Queued.of_new new) (fun _ _ queued change => queued.change change) operations
  have owing := isKept_owing.after (Owing.of_new new) operations
  rcases List.append_of_mem (mem_dues.mp (queued.due second)) with ⟨later, earlier, split⟩
  rcases owing.lawful _ earlier ⟨later, split.symm⟩ other rfl with
    ⟨outcome, inside, method, before, shape, nested, sooner⟩
  rw [shape] at split
  have order := dues_order split nested sooner less
  rw [queued.idxOf_eq first, queued.idxOf_eq second] at order
  have numbered : history = (later ++ .acknowledgementDue other :: .concluded other outcome ::
      inside) ++ .numbered .request other :: (.arrived method true true :: before) := by
    have same : history = _ := split
    rw [same]
    simp
  refine ⟨⟨_, _, numbered⟩, ?_⟩
  intro later' earlier' split' place'
  have increasing : Increasing history := (numbered_after new operations).increasing
  rw [numbered] at increasing split'
  have same := increasing.before_unique split'
  rw [← same]
  have within : .acknowledgementDue one ∈ Event.arrived method true true :: before ↔
      .acknowledgementDue one ∈ before := by simp
  rw [within]
  by_cases owed : .acknowledgementDue one ∈ before
  · have first := order.1 owed
    exact ⟨iff_of_true first owed, iff_of_false (Nat.lt_asymm first) (not_not.mpr owed)⟩
  · have second := order.2 owed
    exact ⟨iff_of_false (Nat.lt_asymm second) owed, iff_of_true second owed⟩

def nestedRequests : List (Nat × Operation Program) :=
  let inner : Program :=
    .perform (.request (.string "inner") .null (some fun _ => .done .null) none) fun _ =>
      .done .null
  [(5, .register "outer" fun _ _ => inner),
    (5, .request (.string "outer") .null (some fun _ => .done .null) none), (5, .drain)]

/-- The inner request came in before the outer one had come back. -/
theorem acknowledgement_order_of_nesting :
    let history := (({} : Session).after nestedRequests).history
    acknowledgements history = [2, 1] ∧
      ∃ later earlier, history = later ++ .numbered .request 2 :: earlier ∧
        .acknowledgementDue 1 ∉ earlier := by
  intro history
  have reversed : acknowledgements history = [2, 1] := by decide +kernel
  rcases acknowledgement_order isNew_default nestedRequests 1 2 (by decide)
    (by decide +kernel) (by decide +kernel) with ⟨⟨later, earlier, split⟩, order⟩
  exact ⟨reversed, later, earlier, split, (order later earlier split).2.mp (by decide +kernel)⟩

theorem acknowledgements_reversed_of_nesting :
    ¬∀ operations one other,
      let history := (({} : Session).after operations).history
      one < other → one ∈ acknowledgements history → other ∈ acknowledgements history →
        (acknowledgements history).idxOf one < (acknowledgements history).idxOf other := by
  intro ordered
  have first := ordered nestedRequests 1 2 (by decide) (by decide +kernel) (by decide +kernel)
  revert first
  decide +kernel

end RpcSession.Session
