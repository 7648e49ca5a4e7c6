import RpcSession.Proofs.Json.Grammar

/-!
# Names of doubles

Outside its strings a text of the grammar has no letter that begins the name of a double which is
no finite number, and what is written of such a double has one. So what is written of a value is a
text of the grammar only if all doubles inside it are finite.
-/

namespace RpcSession.Json.Grammar

open Decimal

/-! ## Characters outside strings -/

/-- The characters of a text that stand outside its strings, from a place inside one or not. -/
def bare : (inside : Bool) → List Char → List Char
  | _, [] => []
  | false, '"' :: rest => bare true rest
  | false, character :: rest => character :: bare false rest
  | true, '\\' :: _ :: rest => bare true rest
  | true, '"' :: rest => bare false rest
  | true, _ :: rest => bare true rest

def IsClosed (text : List Char) : Prop :=
  ∀ rest, bare false (text ++ rest) = bare false text ++ bare false rest

namespace IsClosed

variable {first second : List Char}

theorem append (begins : IsClosed first) (ends : IsClosed second) : IsClosed (first ++ second) := by
  intro rest
  rw [List.append_assoc, begins, ends, begins, List.append_assoc]

theorem bare_append (begins : IsClosed first) :
    bare false (first ++ second) = bare false first ++ bare false second := begins second

end IsClosed

theorem bare_cons {mark : Char} (plain : mark ≠ '"') (rest : List Char) :
    bare false (mark :: rest) = mark :: bare false rest := by
  rw [bare]
  exact fun quote => plain quote

theorem bare_of_no_quotes {text : List Char} (plain : '"' ∉ text) (rest : List Char) :
    bare false (text ++ rest) = text ++ bare false rest := by
  induction text with
  | nil => rfl
  | cons mark text induction =>
      rw [List.mem_cons, not_or] at plain
      rw [List.cons_append, bare_cons (Ne.symm plain.1), induction plain.2, List.cons_append]

theorem isClosed_of_no_quotes {text : List Char} (plain : '"' ∉ text) : IsClosed text := by
  intro rest
  have alone := bare_of_no_quotes plain []
  rw [List.append_nil] at alone
  rw [bare_of_no_quotes plain, alone, bare, List.append_nil]

private theorem bare_eq_self {text : List Char} (plain : '"' ∉ text) : bare false text = text := by
  have alone := bare_of_no_quotes plain []
  rwa [List.append_nil, bare, List.append_nil] at alone

private theorem bare_stringPart {part : List Char} (isPart : StringPart part) (rest : List Char) :
    bare true (part ++ rest) = bare true rest := by
  cases isPart with
  | plain character printable quote slash =>
      rw [List.cons_append, List.nil_append, bare]
      · exact fun _ _ same => absurd same slash
      · exact fun same => quote same
  | simple character known => rfl
  | code digits four hexadecimal =>
      have solid : ∀ digit ∈ digits, digit ≠ '\\' ∧ digit ≠ '"' := by
        intro digit member
        have known := hexadecimal digit member
        refine ⟨?_, ?_⟩ <;> rintro rfl <;> cases known
      have skipped : bare true (digits ++ rest) = bare true rest := by
        clear four hexadecimal
        induction digits with
        | nil => rfl
        | cons digit digits induction =>
            have first := solid digit List.mem_cons_self
            rw [List.cons_append, bare]
            · exact induction fun other member => solid other (List.mem_cons_of_mem digit member)
            · exact fun _ _ same => absurd same first.1
            · exact fun same => first.2 same
      exact skipped

theorem bare_stringText {text : List Char} (isString : StringText text) (rest : List Char) :
    bare false (text ++ rest) = bare false rest := by
  cases isString with
  | @quoted body inside =>
      rw [List.append_assoc, List.cons_append, bare]
      induction inside with
      | nil => rfl
      | cons first _ induction => rw [List.append_assoc, bare_stringPart first, induction]

theorem isClosed_of_stringText {text : List Char} (isString : StringText text) : IsClosed text := by
  intro rest
  have alone := bare_stringText isString []
  rw [List.append_nil, bare] at alone
  rw [bare_stringText isString, alone, List.nil_append]

def isNaming (mark : Char) : Bool := mark == 'N' || mark == 'I'

/-- A text that has no name of a double outside its strings. -/
structure IsNameless (text : List Char) : Prop where
  closed : IsClosed text
  nameless : ∀ mark ∈ bare false text, isNaming mark = false

namespace IsNameless

variable {first second : List Char}

theorem append (begins : IsNameless first) (ends : IsNameless second) :
    IsNameless (first ++ second) := by
  refine ⟨begins.closed.append ends.closed, fun mark member => ?_⟩
  rw [begins.closed.bare_append] at member
  rcases List.mem_append.mp member with member | member
  · exact begins.nameless mark member
  · exact ends.nameless mark member

theorem of_marks {text : List Char} (plain : ∀ mark ∈ text, mark ≠ '"' ∧ isNaming mark = false) :
    IsNameless text := by
  have unquoted : '"' ∉ text := fun member => (plain '"' member).1 rfl
  refine ⟨isClosed_of_no_quotes unquoted, fun mark member => ?_⟩
  rw [bare_eq_self unquoted] at member
  exact (plain mark member).2

theorem of_word {text : List Char}
    (plain : (text.all fun mark => mark != '"' && !isNaming mark) = true) : IsNameless text := by
  refine of_marks fun mark member => ?_
  have one := List.all_eq_true.mp plain mark member
  simpa using one

theorem cons {mark : Char} (plain : mark ≠ '"' ∧ isNaming mark = false)
    (rest : IsNameless second) : IsNameless (mark :: second) :=
  append (of_marks fun other member => by
    cases List.mem_singleton.mp member
    exact plain) rest

theorem of_digits {digits : List Char} (all : ∀ mark ∈ digits, mark.isDigit = true) :
    IsNameless digits := by
  refine of_marks fun mark member => ⟨?_, ?_⟩
  · rintro rfl
    cases all '"' member
  · rw [← Bool.not_eq_true]
    intro naming
    simp only [isNaming, Bool.or_eq_true, beq_iff_eq] at naming
    rcases naming with rfl | rfl <;> cases all _ member

theorem of_blanks {blanks : List Char} (blank : AreBlanks blanks) : IsNameless blanks := by
  refine of_marks fun mark member => ?_
  have space := blank mark member
  simp only [isSpace, Bool.or_eq_true, beq_iff_eq] at space
  rcases space with ((rfl | rfl) | rfl) | rfl <;> decide

theorem of_stringText {text : List Char} (isString : StringText text) : IsNameless text := by
  refine ⟨isClosed_of_stringText isString, fun mark member => ?_⟩
  have nothing := bare_stringText isString []
  rw [List.append_nil, bare] at nothing
  rw [nothing] at member
  cases member

private theorem of_wholePart {whole : List Char} (isWhole : WholePart whole) :
    IsNameless whole := by
  cases isWhole with
  | zero => exact of_word (by decide)
  | @digits first rest digit _ others =>
      refine of_digits fun mark member => ?_
      rcases List.mem_cons.mp member with rfl | member
      · exact digit
      · exact others mark member

private theorem of_fraction {fraction : List Char} (isFraction : Fraction fraction) :
    IsNameless fraction := by
  cases isFraction with
  | none => exact of_word (by decide)
  | some areDigits => exact .cons (by decide) (of_digits areDigits.2)

private theorem of_power {power : List Char} (isPower : Power power) : IsNameless power := by
  cases isPower with
  | none => exact of_word (by decide)
  | @some mark sign digits isMark isSign areDigits =>
      have signs : IsNameless sign := by
        simp only [List.mem_cons, List.not_mem_nil, or_false] at isSign
        rcases isSign with rfl | rfl | rfl <;> exact of_word (by decide)
      have marks : mark ≠ '"' ∧ isNaming mark = false := by
        rcases isMark with rfl | rfl <;> decide
      exact (IsNameless.cons marks signs).append (of_digits areDigits.2)

theorem of_numberText {text : List Char} (number : NumberText text) : IsNameless text := by
  cases number with
  | @number sign _ _ _ isSign isWhole isFraction isPower =>
      have signs : IsNameless sign := by
        simp only [List.mem_cons, List.not_mem_nil, or_false] at isSign
        rcases isSign with rfl | rfl <;> exact of_word (by decide)
      exact ((signs.append (of_wholePart isWhole)).append (of_fraction isFraction)).append
        (of_power isPower)

mutual

private theorem of_valueText {text : List Char} : ValueText text → IsNameless text
  | .null => of_word (by decide)
  | .true => of_word (by decide)
  | .false => of_word (by decide)
  | .number number => of_numberText number
  | .string string => of_stringText string
  | .emptyArray blank => .cons (by decide) ((of_blanks blank).append (of_word (by decide)))
  | .array inside => .cons (by decide) ((of_itemsText inside).append (of_word (by decide)))
  | .emptyObject blank => .cons (by decide) ((of_blanks blank).append (of_word (by decide)))
  | .object inside => .cons (by decide) ((of_membersText inside).append (of_word (by decide)))

private theorem of_elementText {text : List Char} : ElementText text → IsNameless text
  | .padded leading inside trailing =>
      ((of_blanks leading).append (of_valueText inside)).append (of_blanks trailing)

theorem of_itemsText {text : List Char} : ItemsText text → IsNameless text
  | .last element => of_elementText element
  | .next element others =>
      (of_elementText element).append (.cons (by decide) (of_itemsText others))

theorem of_membersText {text : List Char} : MembersText text → IsNameless text
  | .last leading isName trailing element =>
      (((of_blanks leading).append (of_stringText isName)).append (of_blanks trailing)).append
        (.cons (by decide) (of_elementText element))
  | .next leading isName trailing element others =>
      ((((of_blanks leading).append (of_stringText isName)).append (of_blanks trailing)).append
        (.cons (by decide) (of_elementText element))).append
          (.cons (by decide) (of_membersText others))

end

end IsNameless

/-! ## Texts of values that are not standard -/

/-- What is written of a value ends all its strings, and names a double outside of them if there is
one that is not finite. -/
structure Reveals (text : List Char) (standard : Bool) : Prop where
  closed : IsClosed text
  naming : standard = false → ∃ mark ∈ bare false text, isNaming mark = true

namespace Reveals

variable {first second text : List Char} {one other standard : Bool}

theorem append (begins : Reveals first one) (ends : Reveals second other) :
    Reveals (first ++ second) (one && other) := by
  refine ⟨begins.closed.append ends.closed, fun isFalse => ?_⟩
  rw [begins.closed.bare_append]
  rcases Bool.and_eq_false_iff.mp isFalse with isFalse | isFalse
  · rcases begins.naming isFalse with ⟨mark, member, naming⟩
    exact ⟨mark, List.mem_append_left _ member, naming⟩
  · rcases ends.naming isFalse with ⟨mark, member, naming⟩
    exact ⟨mark, List.mem_append_right _ member, naming⟩

theorem of_isNameless (isNameless : IsNameless text) : Reveals text true :=
  ⟨isNameless.closed, fun isFalse => nomatch isFalse⟩

theorem of_closed (closed : IsClosed text) : Reveals text true :=
  ⟨closed, fun isFalse => nomatch isFalse⟩

theorem of_no_quotes (plain : '"' ∉ text) : Reveals text true :=
  of_closed (isClosed_of_no_quotes plain)

private theorem surround (reveals : Reveals text standard) (before after : Char)
    (leading : before ≠ '"')
    (trailing : after ≠ '"') : Reveals (before :: text ++ [after]) standard := by
  have first : Reveals [before] true := of_no_quotes (by simpa using Ne.symm leading)
  have last : Reveals [after] true := of_no_quotes (by simpa using Ne.symm trailing)
  have surrounded := (first.append reveals).append last
  rwa [Bool.true_and, Bool.and_true] at surrounded

end Reveals

theorem no_quotes_of_separator {separator blanks : List Char} {mark : Char}
    (same : separator = mark :: blanks) (blank : ∀ other ∈ blanks, isSpace other = true)
    (plain : mark ≠ '"') : '"' ∉ separator := by
  rw [same, List.mem_cons, not_or]
  exact ⟨Ne.symm plain, fun member => nomatch blank '"' member⟩

private theorem reveals_characters (number : Float) :
    Reveals (numberLayout.characters number) (Value.isFiniteDouble number) := by
  rw [Value.isFiniteDouble]
  cases parts : Exact.ofFloat number with
  | finite negative significand exponent =>
      exact .of_isNameless (.of_numberText (numberText_characters numberLayout parts))
  | nan =>
      rw [characters_of_nan parts]
      exact ⟨isClosed_of_no_quotes (by decide), fun _ => ⟨'N', by decide, rfl⟩⟩
  | infinite negative =>
      rw [characters_of_infinite parts]
      cases negative with
      | true => exact ⟨isClosed_of_no_quotes (by decide), fun _ => ⟨'I', by decide, rfl⟩⟩
      | false => exact ⟨isClosed_of_no_quotes (by decide), fun _ => ⟨'I', by decide, rfl⟩⟩

mutual

private theorem reveals_render {style : Style} (ordinary : style.IsOrdinary) :
    ∀ value : Value, Reveals (render style value) value.isStandard
  | .null => .of_isNameless (.of_valueText .null)
  | .bool true => .of_isNameless (.of_valueText .true)
  | .bool false => .of_isNameless (.of_valueText .false)
  | .int number => .of_isNameless (.of_numberText (numberText_toString number))
  | .float number => reveals_characters number
  | .string text => .of_closed (isClosed_of_stringText (stringText_renderString text))
  | .foreign _ display _ => .of_closed (isClosed_of_stringText (stringText_renderString display))
  | .array items => (reveals_renderItems ordinary items).surround '[' ']' (by decide) (by decide)
  | .object members =>
      (reveals_renderMembers ordinary members).surround '{' '}' (by decide) (by decide)

theorem reveals_renderItems {style : Style} (ordinary : style.IsOrdinary) :
    ∀ items : List Value, Reveals (renderItems style items) (Value.areStandard items)
  | [] => .of_no_quotes List.not_mem_nil
  | [item] => by
      rw [Value.areStandard, Value.areStandard, Bool.and_true]
      exact reveals_render ordinary item
  | item :: next :: items => by
      rcases ordinary.items with ⟨blanks, separator, blank⟩
      have plain := no_quotes_of_separator separator blank (by decide)
      rw [renderItems, Value.areStandard, ← Bool.and_true item.isStandard]
      exact ((reveals_render ordinary item).append (.of_no_quotes plain)).append
        (reveals_renderItems ordinary (next :: items))

theorem reveals_renderMembers {style : Style} (ordinary : style.IsOrdinary) :
    ∀ members : List (String × Value),
      Reveals (renderMembers style members) (Value.membersAreStandard members)
  | [] => .of_no_quotes List.not_mem_nil
  | [(name, member)] => by
      rcases ordinary.names with ⟨blanks, separator, blank⟩
      have plain := no_quotes_of_separator separator blank (by decide)
      have named := Reveals.of_closed (isClosed_of_stringText (stringText_renderString name))
      rw [renderMembers, Value.membersAreStandard, Value.membersAreStandard, Bool.and_true]
      exact (named.append (.of_no_quotes plain)).append
        (reveals_render ordinary member)
  | (name, member) :: next :: members => by
      rcases ordinary.names with ⟨blanks, separator, blank⟩
      rcases ordinary.items with ⟨spaces, between, space⟩
      have plain := no_quotes_of_separator separator blank (by decide)
      have others := no_quotes_of_separator between space (by decide)
      have named := Reveals.of_closed (isClosed_of_stringText (stringText_renderString name))
      rw [renderMembers, Value.membersAreStandard, ← Bool.and_true member.isStandard]
      exact (((named.append (.of_no_quotes plain)).append
        (reveals_render ordinary member)).append (.of_no_quotes others)).append
          (reveals_renderMembers ordinary (next :: members))

end

/-- What is written of a value, with blanks behind it, is a text of the standard exactly when the
value is one of the standard. -/
theorem elementText_render_iff {style : Style} (ordinary : style.IsOrdinary) (value : Value)
    {blanks : List Char} (blank : AreBlanks blanks) :
    ElementText (render style value ++ blanks) ↔ value.isStandard = true := by
  constructor
  · intro written
    rw [← Bool.not_eq_false]
    intro isFalse
    have reveals := reveals_render ordinary value
    rcases reveals.naming isFalse with ⟨mark, member, naming⟩
    have nameless := (IsNameless.of_elementText written).nameless mark
      (by rw [reveals.closed.bare_append]; exact List.mem_append_left _ member)
    rw [nameless] at naming
    cases naming
  · intro standard
    exact .padded areBlanks_nil (valueText_render ordinary value standard) blank

end RpcSession.Json.Grammar
