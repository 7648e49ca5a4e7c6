import RpcSession.Proofs.Json.RoundTrip

/-!
# The grammar of JSON

The texts that the standard calls JSON, by its own rules: unlike the reader they know no names of
doubles. What is written of a value is such a text if all doubles inside it are finite.
-/

namespace RpcSession.Json.Grammar

open Decimal

/-! ## Texts -/

def AreBlanks (text : List Char) : Prop := ∀ mark ∈ text, isSpace mark = true

def AreDigits (text : List Char) : Prop := text ≠ [] ∧ ∀ mark ∈ text, mark.isDigit = true

inductive StringPart : List Char → Prop
  | plain (character : Char) (printable : 0x20 ≤ character.toNat) (quote : character ≠ '"')
      (slash : character ≠ '\\') : StringPart [character]
  | simple (character : Char)
      (known : character ∈ ['"', '\\', '/', 'b', 'f', 'n', 'r', 't']) :
      StringPart ['\\', character]
  | code (digits : List Char) (four : digits.length = 4)
      (hexadecimal : ∀ digit ∈ digits, (hexValue? digit).isSome = true) :
      StringPart ('\\' :: 'u' :: digits)

inductive StringBody : List Char → Prop
  | nil : StringBody []
  | cons {part body : List Char} (first : StringPart part) (rest : StringBody body) :
      StringBody (part ++ body)

inductive StringText : List Char → Prop
  | quoted {body : List Char} (inside : StringBody body) : StringText ('"' :: body ++ ['"'])

/-- The digits before the point, with no zero before another digit. -/
inductive WholePart : List Char → Prop
  | zero : WholePart ['0']
  | digits {first : Char} {rest : List Char} (digit : first.isDigit = true) (nonzero : first ≠ '0')
      (others : ∀ mark ∈ rest, mark.isDigit = true) : WholePart (first :: rest)

inductive Fraction : List Char → Prop
  | none : Fraction []
  | some {digits : List Char} (areDigits : AreDigits digits) : Fraction ('.' :: digits)

inductive Power : List Char → Prop
  | none : Power []
  | some {mark : Char} {sign digits : List Char} (isMark : mark = 'e' ∨ mark = 'E')
      (isSign : sign ∈ [[], ['+'], ['-']]) (areDigits : AreDigits digits) :
      Power (mark :: sign ++ digits)

inductive NumberText : List Char → Prop
  | number {sign whole fraction power : List Char} (isSign : sign ∈ [[], ['-']])
      (isWhole : WholePart whole) (isFraction : Fraction fraction) (isPower : Power power) :
      NumberText (sign ++ whole ++ fraction ++ power)

mutual

inductive ValueText : List Char → Prop
  | null : ValueText ['n', 'u', 'l', 'l']
  | true : ValueText ['t', 'r', 'u', 'e']
  | false : ValueText ['f', 'a', 'l', 's', 'e']
  | number {text : List Char} (number : NumberText text) : ValueText text
  | string {text : List Char} (string : StringText text) : ValueText text
  | emptyArray {blanks : List Char} (blank : AreBlanks blanks) :
      ValueText ('[' :: blanks ++ [']'])
  | array {items : List Char} (inside : ItemsText items) : ValueText ('[' :: items ++ [']'])
  | emptyObject {blanks : List Char} (blank : AreBlanks blanks) :
      ValueText ('{' :: blanks ++ ['}'])
  | object {members : List Char} (inside : MembersText members) :
      ValueText ('{' :: members ++ ['}'])

inductive ElementText : List Char → Prop
  | padded {before value after : List Char} (leading : AreBlanks before) (inside : ValueText value)
      (trailing : AreBlanks after) : ElementText (before ++ value ++ after)

inductive ItemsText : List Char → Prop
  | last {item : List Char} (element : ElementText item) : ItemsText item
  | next {item items : List Char} (element : ElementText item) (others : ItemsText items) :
      ItemsText (item ++ ',' :: items)

inductive MembersText : List Char → Prop
  | last {before name after item : List Char} (leading : AreBlanks before)
      (isName : StringText name) (trailing : AreBlanks after) (element : ElementText item) :
      MembersText (before ++ name ++ after ++ ':' :: item)
  | next {before name after item members : List Char} (leading : AreBlanks before)
      (isName : StringText name) (trailing : AreBlanks after) (element : ElementText item)
      (others : MembersText members) :
      MembersText (before ++ name ++ after ++ ':' :: item ++ ',' :: members)

end

theorem areBlanks_nil : AreBlanks [] := by
  intro mark member
  cases member

/-! ## Texts that are written -/

private theorem mem_of_simpleEscape? {letter meant : Char}
    (known : simpleEscape? letter = some meant) :
    letter ∈ ['"', '\\', '/', 'b', 'f', 'n', 'r', 't'] := by
  unfold simpleEscape? at known
  split at known <;> first | cases known; decide | cases known

private theorem stringPart_escapeCharacter (character : Char) :
    StringPart (escapeCharacter character) := by
  rcases escapeCharacter_cases character with
    ⟨letter, escaped, known, _⟩ | ⟨control, escaped⟩ | ⟨escaped, quote, slash, printable⟩
  · rw [escaped]
    exact .simple letter (mem_of_simpleEscape? known)
  · rw [escaped, hexDigits_four]
    refine .code _ rfl fun digit member => ?_
    simp only [List.mem_cons, List.not_mem_nil, or_false] at member
    rcases member with rfl | rfl | rfl | rfl <;>
      rw [hexValue?_digitChar _ (Nat.mod_lt _ (by decide))] <;> rfl
  · rw [escaped]
    exact .plain character printable quote slash

private theorem stringBody_flatMap (characters : List Char) :
    StringBody (characters.flatMap escapeCharacter) := by
  induction characters with
  | nil => exact .nil
  | cons first characters induction => exact .cons (stringPart_escapeCharacter first) induction

theorem stringText_renderString (text : String) : StringText (renderString text) :=
  .quoted (stringBody_flatMap text.toList)

theorem wholePart_of_isWhole {digits : List Char} (whole : IsWhole digits) : WholePart digits := by
  rcases whole.leading with rfl | leading
  · exact .zero
  · cases digits with
    | nil => exact absurd rfl whole.some
    | cons first rest =>
        exact .digits (whole.all first List.mem_cons_self) (leading first rfl)
          fun mark member => whole.all mark (List.mem_cons_of_mem first member)

theorem numberText_signed {whole fraction power : List Char} (negative : Bool)
    (isWhole : WholePart whole) (isFraction : Fraction fraction) (isPower : Power power) :
    NumberText (signed negative (whole ++ fraction ++ power)) := by
  cases negative with
  | true => exact .number (List.mem_of_mem_tail List.mem_cons_self) isWhole isFraction isPower
  | false => exact .number List.mem_cons_self isWhole isFraction isPower

theorem numberText_characters (layout : Layout) {number : Float} {negative : Bool}
    {significand : ℕ} {exponent : ℤ}
    (finite : Exact.ofFloat number = .finite negative significand exponent) :
    NumberText (layout.characters number) := by
  rcases characters_eq_signed layout finite with ⟨text, digits, place, shown, decimal, value⟩
  rw [shown]
  cases decimal with
  | point isWhole some all =>
      have written := numberText_signed negative (wholePart_of_isWhole isWhole)
        (.some ⟨some, all⟩) .none
      rwa [List.append_nil] at written
  | @exponent first fraction power negativePower digit all some digits =>
      have isFraction : Fraction (if fraction.isEmpty then [] else '.' :: fraction) := by
        cases fraction with
        | nil => exact .none
        | cons next rest => exact .some ⟨List.cons_ne_nil next rest, all⟩
      have isSign : [signOf negativePower] ∈ [[], ['+'], ['-']] := by
        cases negativePower <;> decide
      exact numberText_signed negative (wholePart_of_isWhole (isWhole_digit digit)) isFraction
        (.some (.inl rfl) isSign ⟨some, digits⟩)

theorem numberText_toString (number : ℤ) : NumberText (toString number).toList := by
  have written := numberText_signed (decide (number < 0))
    (wholePart_of_isWhole (isWhole_toDigits number.natAbs)) .none .none
  rwa [List.append_nil, List.append_nil, ← toString_eq_signed] at written

theorem elementText_of_valueText {blanks value : List Char} (leading : AreBlanks blanks)
    (inside : ValueText value) : ElementText (blanks ++ value) := by
  have padded := ElementText.padded leading inside areBlanks_nil
  rwa [List.append_nil] at padded

mutual

theorem valueText_render {style : Style} (ordinary : style.IsOrdinary) :
    ∀ value : Value, value.isStandard = true → ValueText (render style value)
  | .null, _ => .null
  | .bool true, _ => .true
  | .bool false, _ => .false
  | .int number, _ => .number (numberText_toString number)
  | .float number, standard => by
      rcases finite_of_isStandard standard with ⟨_, _, _, finite⟩
      exact .number (numberText_characters numberLayout finite)
  | .string text, _ => .string (stringText_renderString text)
  | .foreign _ display _, _ => .string (stringText_renderString display)
  | .array [], _ => .emptyArray areBlanks_nil
  | .array (item :: items), standard =>
      .array (itemsText_renderItems ordinary (item :: items) (List.cons_ne_nil item items)
        areBlanks_nil standard)
  | .object [], _ => .emptyObject areBlanks_nil
  | .object (member :: members), standard =>
      .object (membersText_renderMembers ordinary (member :: members)
        (List.cons_ne_nil member members) areBlanks_nil standard)

theorem itemsText_renderItems {style : Style} (ordinary : style.IsOrdinary) :
    ∀ (items : List Value), items ≠ [] → ∀ {blanks : List Char}, AreBlanks blanks →
      Value.areStandard items = true → ItemsText (blanks ++ renderItems style items)
  | [], nonempty, _, _, _ => absurd rfl nonempty
  | [item], _, blanks, blank, standard => by
      rw [Value.areStandard, Bool.and_eq_true] at standard
      exact .last (elementText_of_valueText blank (valueText_render ordinary item standard.1))
  | item :: next :: items, _, blanks, blank, standard => by
      rw [Value.areStandard, Bool.and_eq_true] at standard
      rcases ordinary.items with ⟨spaces, separator, space⟩
      have others := itemsText_renderItems ordinary (next :: items)
        (List.cons_ne_nil next items) space standard.2
      have element := elementText_of_valueText blank (valueText_render ordinary item standard.1)
      have written := ItemsText.next element others
      rw [renderItems, separator]
      simpa only [List.append_assoc, List.cons_append] using written

theorem membersText_renderMembers {style : Style} (ordinary : style.IsOrdinary) :
    ∀ (members : List (String × Value)), members ≠ [] → ∀ {blanks : List Char},
      AreBlanks blanks → Value.membersAreStandard members = true →
      MembersText (blanks ++ renderMembers style members)
  | [], nonempty, _, _, _ => absurd rfl nonempty
  | [(name, member)], _, blanks, blank, standard => by
      rw [Value.membersAreStandard, Bool.and_eq_true] at standard
      rcases ordinary.names with ⟨gaps, colon, gap⟩
      have element := elementText_of_valueText gap (valueText_render ordinary member standard.1)
      have written := MembersText.last blank (stringText_renderString name) areBlanks_nil element
      rw [renderMembers, colon]
      simpa only [List.append_assoc, List.cons_append, List.append_nil, List.nil_append]
        using written
  | (name, member) :: next :: members, _, blanks, blank, standard => by
      rw [Value.membersAreStandard, Bool.and_eq_true] at standard
      rcases ordinary.names with ⟨gaps, colon, gap⟩
      rcases ordinary.items with ⟨spaces, separator, space⟩
      have others := membersText_renderMembers ordinary (next :: members)
        (List.cons_ne_nil next members) space standard.2
      have element := elementText_of_valueText gap (valueText_render ordinary member standard.1)
      have written := MembersText.next blank (stringText_renderString name) areBlanks_nil element
        others
      rw [renderMembers, colon, separator]
      simpa only [List.append_assoc, List.cons_append, List.append_nil, List.nil_append]
        using written

end

end RpcSession.Json.Grammar
