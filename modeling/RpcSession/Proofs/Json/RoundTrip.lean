import RpcSession.Proofs.Decimal.NonFinite
import RpcSession.Proofs.Json.Numbers
import RpcSession.Proofs.Json.Strings

/-!
# Values read back

What is written of a value is read as the value again, with its members in the same order and with
the text that displays it in the place of every object of the host. This takes distinct names and
whole numbers that are not too long, and so holds of every value that has been read.
-/

namespace RpcSession

open Decimal

namespace Value

/-! ## Kinds of values -/

def isFiniteDouble (number : Float) : Bool :=
  match Exact.ofFloat number with
  | .finite _ _ _ => true
  | _ => false

mutual

/-- Whether every double inside a value is finite. -/
def isStandard : Value → Bool
  | .float number => isFiniteDouble number
  | .array items => areStandard items
  | .object members => membersAreStandard members
  | _ => true

def areStandard : List Value → Bool
  | [] => true
  | item :: items => item.isStandard && areStandard items

def membersAreStandard : List (String × Value) → Bool
  | [] => true
  | (_, member) :: members => member.isStandard && membersAreStandard members

end

mutual

/-- What is true of every value that is read: the names in an object are distinct, whole numbers
have no more digits than are read, and no object of the host is inside. -/
def IsRead : Value → Prop
  | .int number => (Nat.toDigits 10 number.natAbs).length ≤ mostIntegerDigits
  | .array items => AreRead items
  | .object members => (members.map (·.1)).Nodup ∧ MembersAreRead members
  | .foreign _ _ _ => False
  | _ => True

def AreRead : List Value → Prop
  | [] => True
  | item :: items => item.IsRead ∧ AreRead items

def MembersAreRead : List (String × Value) → Prop
  | [] => True
  | (_, member) :: members => member.IsRead ∧ MembersAreRead members

end

/-! ## What is read back -/

mutual

/-- Whether what is written of a value can be read: the names in an object are distinct, and whole
numbers have no more digits than are read. -/
def IsReadable : Value → Prop
  | .int number => (Nat.toDigits 10 number.natAbs).length ≤ mostIntegerDigits
  | .array items => AreReadable items
  | .object members => (members.map (·.1)).Nodup ∧ MembersAreReadable members
  | _ => True

def AreReadable : List Value → Prop
  | [] => True
  | item :: items => item.IsReadable ∧ AreReadable items

def MembersAreReadable : List (String × Value) → Prop
  | [] => True
  | (_, member) :: members => member.IsReadable ∧ MembersAreReadable members

end

mutual

/-- A value without objects of the host, for which the texts that display them stand. -/
def readBack : Value → Value
  | .foreign _ display _ => .string display
  | .array items => .array (itemsReadBack items)
  | .object members => .object (membersReadBack members)
  | value => value

def itemsReadBack : List Value → List Value
  | [] => []
  | item :: items => item.readBack :: itemsReadBack items

def membersReadBack : List (String × Value) → List (String × Value)
  | [] => []
  | (name, member) :: members => (name, member.readBack) :: membersReadBack members

end

theorem membersReadBack_eq_map (members : List (String × Value)) :
    membersReadBack members = members.map fun (name, member) => (name, member.readBack) := by
  induction members with
  | nil => rfl
  | cons first members induction => rw [membersReadBack, induction]; rfl

mutual

private theorem IsRead.readable : ∀ {value : Value}, value.IsRead → value.IsReadable
  | .null, _ | .bool _, _ | .float _, _ | .string _, _ => trivial
  | .int _, short => short
  | .array _, read => areReadable_of_areRead read
  | .object _, read => ⟨read.1, membersAreReadable_of_membersAreRead read.2⟩

theorem areReadable_of_areRead : ∀ {items : List Value}, AreRead items → AreReadable items
  | [], _ => trivial
  | _ :: _, read => ⟨read.1.readable, areReadable_of_areRead read.2⟩

theorem membersAreReadable_of_membersAreRead :
    ∀ {members : List (String × Value)}, MembersAreRead members → MembersAreReadable members
  | [], _ => trivial
  | _ :: _, read => ⟨read.1.readable, membersAreReadable_of_membersAreRead read.2⟩

end

mutual

theorem IsRead.readBack_eq : ∀ {value : Value}, value.IsRead → value.readBack = value
  | .null, _ | .bool _, _ | .int _, _ | .float _, _ | .string _, _ => rfl
  | .array _, read => congrArg array (itemsReadBack_of_areRead read)
  | .object _, read => congrArg object (membersReadBack_of_membersAreRead read.2)

theorem itemsReadBack_of_areRead :
    ∀ {items : List Value}, AreRead items → itemsReadBack items = items
  | [], _ => rfl
  | _ :: _, read => by rw [itemsReadBack, read.1.readBack_eq, itemsReadBack_of_areRead read.2]

theorem membersReadBack_of_membersAreRead :
    ∀ {members : List (String × Value)}, MembersAreRead members → membersReadBack members = members
  | [], _ => rfl
  | _ :: _, read => by
      rw [membersReadBack, read.1.readBack_eq, membersReadBack_of_membersAreRead read.2]

end

end Value

namespace Json

/-! ## Separators -/

structure Style.IsOrdinary (style : Style) : Prop where
  items : ∃ blanks, style.betweenItems = ',' :: blanks ∧ ∀ blank ∈ blanks, isSpace blank = true
  names : ∃ blanks, style.afterName = ':' :: blanks ∧ ∀ blank ∈ blanks, isSpace blank = true

theorem compact_isOrdinary : compact.IsOrdinary :=
  ⟨⟨[], rfl, by simp⟩, ⟨[], rfl, by simp⟩⟩

theorem spaced_isOrdinary : spaced.IsOrdinary :=
  ⟨⟨[' '], rfl, by simp [isSpace]⟩, ⟨[' '], rfl, by simp [isSpace]⟩⟩

/-! ## Beginnings

The reader goes by the first character of a value, which no blank can be taken for. -/

def beginsValue (character : Char) : Bool :=
  character.isDigit || ['n', 't', 'f', 'N', 'I', '"', '[', '{', '-'].contains character

def Begins (text : List Char) : Prop :=
  ∃ first rest, text = first :: rest ∧ beginsValue first = true

private theorem not_isSpace_of_beginsValue {character : Char}
    (begins : beginsValue character = true) :
    isSpace character = false := by
  rw [← Bool.not_eq_true]
  intro space
  simp only [isSpace, Bool.or_eq_true, beq_iff_eq] at space
  rcases space with ((rfl | rfl) | rfl) | rfl <;> cases begins

namespace Begins

variable {text rest blanks : List Char}

theorem append (begins : Begins text) (rest : List Char) : Begins (text ++ rest) := by
  rcases begins with ⟨first, after, rfl, begins⟩
  exact ⟨first, after ++ rest, rfl, begins⟩

theorem skipSpace_eq (begins : Begins text) : skipSpace text = text := by
  rcases begins with ⟨first, rest, rfl, begins⟩
  rw [skipSpace, List.dropWhile_cons_of_neg (by simp [not_isSpace_of_beginsValue begins])]

theorem skipSpace_append (begins : Begins text) (blank : ∀ mark ∈ blanks, isSpace mark = true) :
    skipSpace (blanks ++ text) = text := by
  rw [skipSpace, List.dropWhile_append_of_pos blank]
  exact begins.skipSpace_eq

end Begins

theorem skipSpace_cons {mark : Char} {rest : List Char} (solid : isSpace mark = false) :
    skipSpace (mark :: rest) = mark :: rest := by
  rw [skipSpace, List.dropWhile_cons_of_neg (by simp [solid])]

def BeginsNumber (text : List Char) : Prop :=
  ∃ first rest, text = first :: rest ∧ (first.isDigit = true ∨ first = '-')

theorem BeginsNumber.begins {text : List Char} (number : BeginsNumber text) : Begins text := by
  rcases number with ⟨first, rest, rfl, digit | rfl⟩
  · exact ⟨first, rest, rfl, by simp [beginsValue, digit]⟩
  · exact ⟨'-', rest, rfl, rfl⟩

theorem BeginsNumber.signed {first : Char} (rest : List Char) (negative : Bool)
    (digit : first.isDigit = true) : BeginsNumber (signed negative (first :: rest)) := by
  cases negative with
  | true => exact ⟨'-', first :: rest, rfl, .inr rfl⟩
  | false => exact ⟨first, rest, rfl, .inl digit⟩

theorem beginsNumber_characters (layout : Layout) {number : Float} {negative : Bool}
    {significand : ℕ} {exponent : ℤ}
    (finite : Exact.ofFloat number = .finite negative significand exponent) :
    BeginsNumber (layout.characters number) := by
  rcases characters_eq_signed layout finite with ⟨text, digits, place, shown, decimal, value⟩
  rcases decimal.begins with ⟨first, rest, rfl, digit⟩
  rw [shown]
  exact .signed rest negative digit

theorem beginsNumber_toString (number : ℤ) : BeginsNumber (toString number).toList := by
  rcases (isWhole_toDigits number.natAbs).begins with ⟨first, rest, split, digit⟩
  rw [List.append_nil] at split
  rw [toString_eq_signed, split]
  exact .signed rest _ digit

theorem finite_of_isStandard {number : Float} (standard : (Value.float number).isStandard = true) :
    ∃ negative significand exponent,
      Exact.ofFloat number = .finite negative significand exponent := by
  rw [Value.isStandard, Value.isFiniteDouble] at standard
  split at standard
  · exact ⟨_, _, _, ‹_›⟩
  · cases standard

private theorem begins_characters (number : Float) : Begins (numberLayout.characters number) := by
  cases parts : Exact.ofFloat number with
  | finite => exact (beginsNumber_characters numberLayout parts).begins
  | nan =>
      rw [characters_of_nan parts]
      exact ⟨_, _, rfl, rfl⟩
  | infinite negative =>
      rw [characters_of_infinite parts]
      cases negative <;> exact ⟨_, _, rfl, rfl⟩

theorem begins_render (style : Style) (value : Value) : Begins (render style value) := by
  cases value with
  | bool truth => cases truth <;> exact ⟨_, _, rfl, rfl⟩
  | int number => exact (beginsNumber_toString number).begins
  | float number => exact begins_characters number
  | null | string | array | object | foreign => exact ⟨_, _, rfl, rfl⟩

/-! ## Values -/

theorem setMember_of_not_mem {name : String} {value : Value} {members : List (String × Value)}
    (fresh : name ∉ members.map (·.1)) :
    setMember name value members = members ++ [(name, value)] := by
  induction members with
  | nil => rfl
  | cons first members induction =>
      rcases first with ⟨other, present⟩
      simp only [List.map_cons, List.mem_cons, not_or] at fresh
      rw [setMember, if_neg (Ne.symm fresh.1), induction fresh.2]
      rfl

theorem takeValue_scalar {fuel : ℕ} {first : Char} {rest : List Char} (array : first ≠ '[')
    (object : first ≠ '{') : takeValue (fuel + 1) (first :: rest) = takeScalar (first :: rest) := by
  rw [takeValue.eq_def]
  split
  · rename_i same
    cases same
  · rename_i same
    cases same
    exact absurd rfl array
  · rename_i same
    cases same
    exact absurd rfl object
  · rfl

theorem takeValue_number {fuel : ℕ} {text rest : List Char} {value : Value}
    (number : BeginsNumber text) (enough : text.length ≤ fuel)
    (taken : takeScalar (text ++ rest) = .ok (value, rest)) :
    takeValue fuel (text ++ rest) = .ok (value, rest) := by
  rcases number with ⟨first, others, rfl, begins⟩
  rcases fuel with _ | fuel
  · cases enough
  · rw [List.cons_append, takeValue_scalar]
    · exact taken
    · rintro rfl
      rcases begins with digit | sign
      · cases digit
      · cases sign
    · rintro rfl
      rcases begins with digit | sign
      · cases digit
      · cases sign

private theorem takeScalar_renderString (text : String) (rest : List Char) :
    takeScalar (renderString text ++ rest) = .ok (.string text, rest) := by
  have absent (characters : List Char) :
      ∀ named ∈ namedValues, after? named.1 ('"' :: characters) = none := by
    simp [namedValues, after?]
  have taken := takeString_renderString text rest
  rw [renderString, List.append_assoc, List.cons_append, takeScalar,
    takeNamed_eq_none (absent _)]
  dsimp only [List.cons_append, List.nil_append]
  rw [taken]
  rfl

private theorem takeValue_characters {fuel : ℕ} {rest : List Char} (number : Float)
    (stops : Stops rest) (enough : (numberLayout.characters number).length ≤ fuel) :
    takeValue fuel (numberLayout.characters number ++ rest) = .ok (.float number, rest) := by
  cases parts : Exact.ofFloat number with
  | finite =>
      exact takeValue_number (beginsNumber_characters numberLayout parts) enough
        (takeScalar_characters numberLayout parts stops)
  | nan =>
      rw [characters_of_nan parts] at enough ⊢
      rcases fuel with _ | fuel
      · cases enough
      · rw [eq_of_nan parts]
        exact takeValue_scalar (by decide) (by decide)
  | infinite negative =>
      rw [characters_of_infinite parts] at enough ⊢
      rcases fuel with _ | fuel
      · cases negative <;> cases enough
      · rw [eq_of_infinite parts]
        cases negative <;> exact takeValue_scalar (by decide) (by decide)

private theorem takeValue_items {fuel : ℕ} {text : List Char} (begins : Begins text) :
    takeValue (fuel + 1) ('[' :: text) =
      (takeItems fuel text).bind fun (items, rest) => .ok (.array items, rest) := by
  have skipped := begins.skipSpace_eq
  rcases begins with ⟨first, rest, rfl, begins⟩
  rw [takeValue, skipped]
  split
  · rename_i same
    cases same
    cases begins
  · rfl

private theorem takeValue_members {fuel : ℕ} {text : List Char} :
    takeValue (fuel + 1) ('{' :: '"' :: text) =
      (takeMembers fuel [] ('"' :: text)).bind
        fun (members, rest) => .ok (.object members, rest) := by
  rw [takeValue, skipSpace_cons (by decide)]
  rfl

theorem begins_renderItems (style : Style) {items : List Value} (nonempty : items ≠ []) :
    Begins (renderItems style items) := by
  match items with
  | [] => exact absurd rfl nonempty
  | [item] => exact begins_render style item
  | item :: next :: items =>
      rw [renderItems, List.append_assoc]
      exact (begins_render style item).append _

theorem renderMembers_eq_cons (style : Style) {members : List (String × Value)}
    (nonempty : members ≠ []) : ∃ text, renderMembers style members = '"' :: text := by
  match members with
  | [] => exact absurd rfl nonempty
  | [(name, member)] => exact ⟨_, rfl⟩
  | (name, member) :: next :: members => exact ⟨_, rfl⟩

private theorem takeItems_last {fuel : ℕ} {text rest : List Char} {item : Value}
    (taken : takeValue fuel text = .ok (item, ']' :: rest)) :
    takeItems (fuel + 1) text = .ok ([item], rest) := by
  rw [takeItems, taken]
  dsimp only [bind, Except.bind]
  rw [skipSpace_cons (by decide)]
  rfl

private theorem takeItems_next {fuel : ℕ} {text blanks more rest : List Char} {item : Value}
    {items : List Value} (blank : ∀ mark ∈ blanks, isSpace mark = true) (begins : Begins more)
    (taken : takeValue fuel text = .ok (item, ',' :: blanks ++ more))
    (others : takeItems fuel more = .ok (items, rest)) :
    takeItems (fuel + 1) text = .ok (item :: items, rest) := by
  rw [takeItems, taken]
  dsimp only [bind, Except.bind]
  rw [List.cons_append, skipSpace_cons (by decide)]
  simp only [begins.skipSpace_append blank, others]
  rfl

section Members

variable {fuel : ℕ} {blanks more rest : List Char} {name : String} {member : Value}
  {before : List (String × Value)}

theorem takeMembers_name (blank : ∀ mark ∈ blanks, isSpace mark = true) (begins : Begins more)
    (taken : takeValue fuel more = .ok (member, rest)) (fresh : name ∉ before.map (·.1)) :
    takeMembers (fuel + 1) before (renderString name ++ (':' :: blanks ++ more)) =
      match skipSpace rest with
      | '}' :: rest => .ok (before ++ [(name, member)], rest)
      | ',' :: rest => takeMembers fuel (before ++ [(name, member)]) (skipSpace rest)
      | rest => .error ⟨.expectingComma, rest⟩ := by
  rw [renderString, List.append_assoc, List.cons_append, takeMembers, List.cons_append,
    List.nil_append, takeString_renderString]
  dsimp only [bind, Except.bind]
  rw [List.cons_append, skipSpace_cons (by decide)]
  simp only [begins.skipSpace_append blank, taken, setMember_of_not_mem fresh]
  rfl

private theorem takeMembers_last (blank : ∀ mark ∈ blanks, isSpace mark = true)
    (begins : Begins more)
    (taken : takeValue fuel more = .ok (member, '}' :: rest)) (fresh : name ∉ before.map (·.1)) :
    takeMembers (fuel + 1) before (renderString name ++ (':' :: blanks ++ more)) =
      .ok (before ++ [(name, member)], rest) := by
  rw [takeMembers_name blank begins taken fresh, skipSpace_cons (by decide)]
  rfl

private theorem takeMembers_next {spaces others : List Char}
    (blank : ∀ mark ∈ blanks, isSpace mark = true) (begins : Begins more)
    (space : ∀ mark ∈ spaces, isSpace mark = true) (next : Begins others)
    (taken : takeValue fuel more = .ok (member, ',' :: spaces ++ others))
    (fresh : name ∉ before.map (·.1)) :
    takeMembers (fuel + 1) before (renderString name ++ (':' :: blanks ++ more)) =
      takeMembers fuel (before ++ [(name, member)]) others := by
  rw [takeMembers_name blank begins taken fresh, List.cons_append, skipSpace_cons (by decide)]
  simp only [next.skipSpace_append space]

end Members

private theorem fresh_of_nodup {name : String} {before after : List String}
    (distinct : (before ++ name :: after).Nodup) : name ∉ before := by
  intro present
  exact (List.nodup_append.mp distinct).2.2 name present name List.mem_cons_self rfl

mutual

private theorem takeValue_render {style : Style} (ordinary : style.IsOrdinary) :
    ∀ (value : Value) (fuel : ℕ) (rest : List Char), value.IsReadable →
      Stops rest → (render style value).length ≤ fuel →
      takeValue fuel (render style value ++ rest) = .ok (value.readBack, rest)
  | .null, fuel, rest, _, _, enough => by
      rcases fuel with _ | fuel
      · cases enough
      · rfl
  | .bool truth, fuel, rest, _, _, enough => by
      rcases fuel with _ | fuel
      · cases truth <;> cases enough
      · cases truth <;> rfl
  | .int number, fuel, rest, short, stops, enough =>
      takeValue_number (beginsNumber_toString number) enough (takeScalar_toString short stops)
  | .float number, fuel, rest, _, stops, enough => takeValue_characters number stops enough
  | .string text, fuel, rest, _, _, enough | .foreign _ text _, fuel, rest, _, _, enough => by
      rcases fuel with _ | fuel
      · cases enough
      · exact (takeValue_scalar (by decide) (by decide)).trans (takeScalar_renderString text rest)
  | .array [], fuel, rest, _, _, enough => by
      rcases fuel with _ | fuel
      · cases enough
      · rfl
  | .array (item :: items), fuel, rest, readable, _, enough => by
      rcases fuel with _ | fuel
      · cases enough
      · have begins := begins_renderItems style (List.cons_ne_nil item items)
        have taken := takeItems_renderItems ordinary (item :: items) fuel rest
          (List.cons_ne_nil item items) readable (by simp [render] at enough; omega)
        rw [render, List.append_assoc, List.cons_append, List.cons_append, List.nil_append,
          takeValue_items (begins.append _), taken]
        rfl
  | .object [], fuel, rest, _, _, enough => by
      rcases fuel with _ | fuel
      · cases enough
      · rfl
  | .object (member :: members), fuel, rest, readable, _, enough => by
      rcases fuel with _ | fuel
      · cases enough
      · rcases renderMembers_eq_cons style (List.cons_ne_nil member members) with ⟨text, shown⟩
        have taken := takeMembers_renderMembers ordinary (member :: members) [] fuel rest
          (List.cons_ne_nil member members) readable.2 (by simpa using readable.1)
          (by simp [render] at enough; omega)
        rw [shown] at taken
        rw [render, shown, List.append_assoc, List.cons_append, List.cons_append, List.cons_append,
          List.nil_append]
        rw [List.cons_append] at taken
        rw [takeValue_members, taken]
        rfl

theorem takeItems_renderItems {style : Style} (ordinary : style.IsOrdinary) :
    ∀ (items : List Value) (fuel : ℕ) (rest : List Char), items ≠ [] →
      Value.AreReadable items → (renderItems style items).length + 1 ≤ fuel →
      takeItems fuel (renderItems style items ++ ']' :: rest) =
        .ok (Value.itemsReadBack items, rest)
  | [], _, _, nonempty, _, _ => absurd rfl nonempty
  | [item], fuel, rest, _, readable, enough => by
      rcases fuel with _ | fuel
      · cases enough
      · exact takeItems_last (takeValue_render ordinary item fuel (']' :: rest) readable.1
          (.cons (by decide)) (by simp [renderItems] at enough; omega))
  | item :: next :: items, fuel, rest, _, readable, enough => by
      rcases fuel with _ | fuel
      · cases enough
      · rcases ordinary.items with ⟨blanks, separator, blank⟩
        rw [renderItems, separator] at enough ⊢
        simp only [List.length_append, List.length_cons] at enough
        have others := takeItems_renderItems ordinary (next :: items) fuel rest
          (List.cons_ne_nil next items) readable.2 (by omega)
        have begins := begins_renderItems style (List.cons_ne_nil next items)
        rw [List.append_assoc, List.append_assoc]
        exact takeItems_next blank (begins.append _)
          (takeValue_render ordinary item fuel _ readable.1 (.cons (by decide)) (by omega)) others

theorem takeMembers_renderMembers {style : Style} (ordinary : style.IsOrdinary) :
    ∀ (members before : List (String × Value)) (fuel : ℕ) (rest : List Char), members ≠ [] →
      Value.MembersAreReadable members → (before.map (·.1) ++ members.map (·.1)).Nodup →
      (renderMembers style members).length + 1 ≤ fuel →
      takeMembers fuel before (renderMembers style members ++ '}' :: rest) =
        .ok (before ++ Value.membersReadBack members, rest)
  | [], _, _, _, nonempty, _, _, _ => absurd rfl nonempty
  | [(name, member)], before, fuel, rest, _, readable, distinct, enough => by
      rcases fuel with _ | fuel
      · cases enough
      · rcases ordinary.names with ⟨blanks, separator, blank⟩
        rw [renderMembers, separator] at enough ⊢
        simp only [List.length_append, List.length_cons] at enough
        rw [List.append_assoc, List.append_assoc]
        exact takeMembers_last blank ((begins_render style member).append _)
          (takeValue_render ordinary member fuel _ readable.1 (.cons (by decide)) (by omega))
          (fresh_of_nodup distinct)
  | (name, member) :: next :: members, before, fuel, rest, _, readable, distinct, enough => by
      rcases fuel with _ | fuel
      · cases enough
      · rcases ordinary.names with ⟨blanks, separator, blank⟩
        rcases ordinary.items with ⟨spaces, between, space⟩
        rw [renderMembers, separator, between] at enough ⊢
        simp only [List.length_append, List.length_cons] at enough
        rcases renderMembers_eq_cons style (List.cons_ne_nil next members) with ⟨text, shown⟩
        have begins : Begins (renderMembers style (next :: members)) := ⟨'"', text, shown, rfl⟩
        have others := takeMembers_renderMembers ordinary (next :: members)
          (before ++ [(name, member.readBack)]) fuel rest (List.cons_ne_nil next members) readable.2
          (by simpa using distinct) (by omega)
        simp only [List.append_assoc]
        rw [takeMembers_next blank ((begins_render style member).append _) space
          (begins.append _) (takeValue_render ordinary member fuel _ readable.1
            (.cons (by decide)) (by omega)) (fresh_of_nodup distinct), others, List.append_assoc]
        rfl

end

/-! ## Documents -/

private theorem stops_of_isSpace {blanks : List Char}
    (blank : ∀ mark ∈ blanks, isSpace mark = true) :
    Stops blanks := by
  intro character member
  have space := blank character (List.mem_of_mem_head? member)
  rw [← Bool.not_eq_true]
  intro continues
  simp only [isSpace, Bool.or_eq_true, beq_iff_eq] at space
  rcases space with ((rfl | rfl) | rfl) | rfl <;> cases continues

private theorem skipSpace_of_isSpace {blanks : List Char}
    (blank : ∀ mark ∈ blanks, isSpace mark = true) :
    skipSpace blanks = [] := by
  rw [skipSpace, ← List.append_nil blanks, List.dropWhile_append_of_pos blank]
  rfl

/-- What is written of a value, with blanks behind it, is read back. -/
theorem read_render {style : Style} (ordinary : style.IsOrdinary) {value : Value}
    (readable : value.IsReadable) {blanks : List Char}
    (blank : ∀ mark ∈ blanks, isSpace mark = true) :
    Json.read (render style value ++ blanks) = .ok value.readBack := by
  have begins := (begins_render style value).append blanks
  have taken := takeValue_render ordinary value ((render style value ++ blanks).length + 1) blanks
    readable (stops_of_isSpace blank) (by rw [List.length_append]; omega)
  have skipped := begins.skipSpace_eq
  rcases begins with ⟨first, rest, shown, begins⟩
  unfold Json.read
  rw [shown] at taken skipped ⊢
  split
  · rename_i same
    cases same
    cases begins
  · rw [skipped, taken]
    dsimp only
    rw [skipSpace_of_isSpace blank]

theorem read_render_of_isRead {style : Style} (ordinary : style.IsOrdinary) {value : Value}
    (read : value.IsRead) {blanks : List Char} (blank : ∀ mark ∈ blanks, isSpace mark = true) :
    Json.read (render style value ++ blanks) = .ok value := by
  rw [read_render ordinary read.readable blank, read.readBack_eq]

end Json

end RpcSession
