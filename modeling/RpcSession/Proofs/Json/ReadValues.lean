import RpcSession.Proofs.Json.RoundTrip

/-!
# Values that are read

In a value that the reader returns the names of an object are distinct, for a later member
replaces an earlier one, and no whole number is longer than the reader takes.
-/

namespace RpcSession.Json

open Decimal

theorem of_bind_eq_ok {first : Except ε α} {next : α → Except ε β} {value : β}
    (came : first.bind next = .ok value) : ∃ given, first = .ok given ∧ next given = .ok value := by
  cases first with
  | error fault => cases came
  | ok given => exact ⟨given, rfl, came⟩

/-! ## Scalars -/

private theorem digits_lt_of_takeAsciiDigits {characters rest : List Char} {digits : List ℕ}
    (taken : takeAsciiDigits characters = (digits, rest)) : ∀ digit ∈ digits, digit < 10 := by
  cases taken
  exact digitValues_lt fun _ member => List.all_eq_true.mp List.all_takeWhile _ member

private theorem digits_lt_of_takeWhole {characters rest : List Char} {digits : List ℕ}
    (taken : takeWhole characters = (digits, rest)) : ∀ digit ∈ digits, digit < 10 := by
  unfold takeWhole at taken
  split at taken
  · cases taken
    simp
  · exact digits_lt_of_takeAsciiDigits taken

private theorem isRead_of_integerOfDigits {negative : Bool} {digits : List ℕ} {number : ℤ}
    (below : ∀ digit ∈ digits, digit < 10) (read : integerOfDigits negative digits = .ok number) :
    (Value.int number).IsRead := by
  unfold integerOfDigits at read
  split at read
  · cases read
  · rename_i short
    have absolute : number.natAbs = ofDigits digits := by
      cases negative <;> cases read <;> simp
    rw [Value.IsRead, absolute, Nat.length_toDigits_le_iff (by decide) (by decide)]
    calc ofDigits digits < 10 ^ digits.length := ofDigits_lt below
      _ ≤ 10 ^ mostIntegerDigits := Nat.pow_le_pow_right (by decide) (by omega)

private theorem isRead_of_takeNumber {start characters rest : List Char} {negative : Bool}
    {value : Value}
    (taken : takeNumber start negative characters = .ok (value, rest)) : value.IsRead := by
  unfold takeNumber at taken
  split at taken
  · cases taken
  · rename_i whole afterWhole _ split
    dsimp only at taken
    split at taken
    · cases read : integerOfDigits negative whole with
      | error fault =>
          rw [read] at taken
          cases taken
      | ok number =>
          rw [read] at taken
          cases taken
          exact isRead_of_integerOfDigits (digits_lt_of_takeWhole split) read
    · cases taken
      trivial

private theorem isRead_of_named {entry : List Char × Value} (member : entry ∈ namedValues) :
    entry.2.IsRead := by
  simp only [namedValues, List.mem_cons, List.not_mem_nil, or_false] at member
  rcases member with rfl | rfl | rfl | rfl | rfl | rfl <;> trivial

private theorem isRead_of_takeScalar {characters rest : List Char} {value : Value}
    (taken : takeScalar characters = .ok (value, rest)) : value.IsRead := by
  unfold takeScalar at taken
  split at taken
  · rename_i found
    cases taken
    rcases List.exists_of_findSome?_eq_some found with ⟨entry, member, matched⟩
    rcases Option.map_eq_some_iff.mp matched with ⟨_, _, same⟩
    cases same
    exact isRead_of_named member
  · split at taken
    · rcases of_bind_eq_ok taken with ⟨read, _, returned⟩
      cases returned
      trivial
    · exact isRead_of_takeNumber taken
    · exact isRead_of_takeNumber taken

/-! ## Members -/

private theorem names_setMember {name : String} {value : Value} {members : List (String × Value)} :
    (setMember name value members).map (·.1) =
      if name ∈ members.map (·.1) then members.map (·.1) else members.map (·.1) ++ [name] := by
  induction members with
  | nil => rfl
  | cons first members induction =>
      rcases first with ⟨other, present⟩
      rw [setMember]
      by_cases same : other = name
      · rw [if_pos same]
        simp [same]
      · rw [if_neg same, List.map_cons, induction]
        have different : ¬ name = other := fun equal => same equal.symm
        by_cases member : name ∈ members.map (·.1)
        · simp only [List.map_cons, List.mem_cons, member, or_true, if_true]
        · simp only [List.map_cons, List.mem_cons, member, different, or_self, if_false,
            List.cons_append]

theorem nodup_setMember {name : String} {value : Value} {members : List (String × Value)}
    (distinct : (members.map (·.1)).Nodup) : ((setMember name value members).map (·.1)).Nodup := by
  rw [names_setMember]
  split
  · exact distinct
  · rename_i fresh
    exact List.nodup_append.mpr ⟨distinct, List.nodup_singleton name, by
      rintro other present _ last rfl
      cases List.mem_singleton.mp last
      exact fresh present⟩

private theorem membersAreRead_setMember {name : String} {value : Value}
    {members : List (String × Value)}
    (read : value.IsRead) (members_read : Value.MembersAreRead members) :
    Value.MembersAreRead (setMember name value members) := by
  induction members with
  | nil => exact ⟨read, trivial⟩
  | cons first members induction =>
      rcases first with ⟨other, present⟩
      rw [setMember]
      split
      · exact ⟨read, members_read.2⟩
      · exact ⟨members_read.1, induction members_read.2⟩

/-! ## Values -/

/-- What one fuel of the reader promises. -/
structure ReadsValues (fuel : ℕ) : Prop where
  value {characters rest : List Char} {value : Value} :
    takeValue fuel characters = .ok (value, rest) → value.IsRead
  items {characters rest : List Char} {items : List Value} :
    takeItems fuel characters = .ok (items, rest) → Value.AreRead items
  members {before members : List (String × Value)} {characters rest : List Char} :
    (before.map (·.1)).Nodup → Value.MembersAreRead before →
      takeMembers fuel before characters = .ok (members, rest) →
      (members.map (·.1)).Nodup ∧ Value.MembersAreRead members

theorem readsValues_zero : ReadsValues 0 where
  value := by
    intro _ _ _ taken
    rw [takeValue] at taken
    cases taken
  items := by
    intro _ _ _ taken
    rw [takeItems] at taken
    cases taken
  members := by
    intro _ _ _ _ _ _ taken
    rw [takeMembers.eq_2 _ _ _ (by rintro _ _ ⟨⟩)] at taken
    cases taken

namespace ReadsValues

variable {fuel : ℕ} {characters rest : List Char}

theorem value_succ (inside : ReadsValues fuel) {value : Value}
    (taken : takeValue (fuel + 1) characters = .ok (value, rest)) : value.IsRead := by
  unfold takeValue at taken
  split at taken
  · cases ‹_ = _›
  · split at taken
    · cases taken
      trivial
    · cases ‹fuel + 1 = _›
      rcases of_bind_eq_ok taken with ⟨read, items, returned⟩
      cases returned
      exact inside.items items
  · split at taken
    · cases taken
      exact ⟨List.nodup_nil, trivial⟩
    · cases ‹fuel + 1 = _›
      rcases of_bind_eq_ok taken with ⟨read, members, returned⟩
      cases returned
      have none : (([] : List (String × Value)).map (·.1)).Nodup := List.nodup_nil
      exact inside.members none trivial members
  · exact isRead_of_takeScalar taken

theorem items_succ (inside : ReadsValues fuel) {items : List Value}
    (taken : takeItems (fuel + 1) characters = .ok (items, rest)) : Value.AreRead items := by
  rw [takeItems] at taken
  rcases of_bind_eq_ok taken with ⟨⟨item, more⟩, first, taken⟩
  dsimp only at taken
  split at taken
  · cases taken
    exact ⟨inside.value first, trivial⟩
  · rcases of_bind_eq_ok taken with ⟨read, others, returned⟩
    cases returned
    exact ⟨inside.value first, inside.items others⟩
  · cases taken

theorem members_succ (inside : ReadsValues fuel) {before members : List (String × Value)}
    (distinct : (before.map (·.1)).Nodup) (read : Value.MembersAreRead before)
    (taken : takeMembers (fuel + 1) before characters = .ok (members, rest)) :
    (members.map (·.1)).Nodup ∧ Value.MembersAreRead members := by
  unfold takeMembers at taken
  split at taken
  · cases ‹fuel + 1 = _›
    rcases of_bind_eq_ok taken with ⟨⟨name, more⟩, _, taken⟩
    dsimp only at taken
    split at taken
    · rcases of_bind_eq_ok taken with ⟨⟨member, behind⟩, came, taken⟩
      have member_read := inside.value came
      dsimp only at taken
      split at taken
      · cases taken
        exact ⟨nodup_setMember distinct, membersAreRead_setMember member_read read⟩
      · exact inside.members (nodup_setMember distinct)
          (membersAreRead_setMember member_read read) taken
      · cases taken
    · cases taken
  · cases taken

end ReadsValues

private theorem readsValues (fuel : ℕ) : ReadsValues fuel := by
  -- The induction is on the fuel, of which a value has more than its parts.
  induction fuel with
  | zero => exact readsValues_zero
  | succ fuel inside => exact ⟨inside.value_succ, inside.items_succ, inside.members_succ⟩

theorem isRead_of_read {document : List Char} {value : Value}
    (came : Json.read document = .ok value) : value.IsRead := by
  unfold Json.read at came
  split at came
  · cases came
  · split at came
    · cases came
    · rename_i taken
      split at came
      · cases came
        exact (readsValues _).value taken
      · cases came

end RpcSession.Json
