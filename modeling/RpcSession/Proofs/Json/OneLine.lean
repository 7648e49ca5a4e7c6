import RpcSession.Proofs.Json.Grammar

/-!
# Values on one line

What is written of a value has no control characters, whatever is inside its texts, so it fits on
one line.
-/

namespace RpcSession.Json

open Decimal

/-- A text without control characters. -/
def IsOneLine (text : List Char) : Prop := ∀ mark ∈ text, 0x20 ≤ mark.toNat

instance (text : List Char) : Decidable (IsOneLine text) :=
  decidable_of_iff (text.all fun mark => 0x20 ≤ mark.toNat) (by simp [IsOneLine])

namespace IsOneLine

variable {first second text : List Char}

theorem append (begins : IsOneLine first) (ends : IsOneLine second) :
    IsOneLine (first ++ second) := by
  intro mark member
  rcases List.mem_append.mp member with member | member
  · exact begins mark member
  · exact ends mark member

theorem cons {mark : Char} (printable : 0x20 ≤ mark.toNat) (rest : IsOneLine text) :
    IsOneLine (mark :: text) := by
  intro other member
  rcases List.mem_cons.mp member with rfl | member
  · exact printable
  · exact rest other member

theorem nil : IsOneLine [] := by
  intro mark member
  cases member

theorem of_digits {digits : List Char} (all : ∀ mark ∈ digits, mark.isDigit = true) :
    IsOneLine digits := by
  intro mark member
  have digit := all mark member
  rw [Char.isDigit, Bool.and_eq_true, decide_eq_true_eq] at digit
  exact Nat.le_trans (by decide) digit.1

theorem of_signed (negative : Bool) (unsigned : IsOneLine text) :
    IsOneLine (signed negative text) := by
  cases negative with
  | true => exact cons (by decide) unsigned
  | false => exact unsigned

private theorem of_isDecimal {digits : List ℕ} {place : ℤ} (decimal : IsDecimal text digits place) :
    IsOneLine text := by
  cases decimal with
  | point isWhole _ all => exact (of_digits isWhole.all).append (cons (by decide) (of_digits all))
  | @exponent first fraction power negativePower digit all _ digits =>
      have fractions : IsOneLine (if fraction.isEmpty then [] else '.' :: fraction) := by
        split
        · exact nil
        · exact cons (by decide) (of_digits all)
      have sign : 0x20 ≤ (signOf negativePower).toNat := by cases negativePower <;> decide
      have leading : IsOneLine [first] := of_digits (by simpa using digit)
      exact (leading.append fractions).append (cons (by decide) (cons sign (of_digits digits)))

private theorem of_characters (number : Float) : IsOneLine (numberLayout.characters number) := by
  cases parts : Exact.ofFloat number with
  | finite negative significand exponent =>
      rcases characters_eq_signed numberLayout parts with ⟨text, digits, place, shown, decimal, _⟩
      rw [shown]
      exact of_signed negative (of_isDecimal decimal)
  | nan =>
      rw [characters_of_nan parts]
      decide
  | infinite negative =>
      rw [characters_of_infinite parts]
      exact of_signed negative (by decide)

private theorem of_toString (number : ℤ) : IsOneLine (toString number).toList := by
  rw [toString_eq_signed]
  exact of_signed _ (of_digits fun _ => isDigit_of_mem_toDigits)

theorem of_renderString (text : String) : IsOneLine (renderString text) :=
  fun _ => printable_of_mem_renderString

end IsOneLine

structure Style.IsOnLine (style : Style) : Prop where
  items : IsOneLine style.betweenItems
  names : IsOneLine style.afterName

theorem compact_isOnLine : compact.IsOnLine := ⟨by decide, by decide⟩

theorem spaced_isOnLine : spaced.IsOnLine := ⟨by decide, by decide⟩

mutual

theorem isOneLine_render {style : Style} (onLine : style.IsOnLine) :
    ∀ value : Value, IsOneLine (render style value)
  | .null => have word : IsOneLine ['n', 'u', 'l', 'l'] := by decide
      word
  | .bool true => have word : IsOneLine ['t', 'r', 'u', 'e'] := by decide
      word
  | .bool false => have word : IsOneLine ['f', 'a', 'l', 's', 'e'] := by decide
      word
  | .int number => .of_toString number
  | .float number => .of_characters number
  | .string text => .of_renderString text
  | .foreign _ display _ => .of_renderString display
  | .array items => .cons (by decide) ((isOneLine_renderItems onLine items).append (by decide))
  | .object members =>
      .cons (by decide) ((isOneLine_renderMembers onLine members).append (by decide))

theorem isOneLine_renderItems {style : Style} (onLine : style.IsOnLine) :
    ∀ items : List Value, IsOneLine (renderItems style items)
  | [] => .nil
  | [item] => isOneLine_render onLine item
  | item :: next :: items =>
      ((isOneLine_render onLine item).append onLine.items).append
        (isOneLine_renderItems onLine (next :: items))

theorem isOneLine_renderMembers {style : Style} (onLine : style.IsOnLine) :
    ∀ members : List (String × Value), IsOneLine (renderMembers style members)
  | [] => .nil
  | [(name, member)] =>
      ((IsOneLine.of_renderString name).append onLine.names).append (isOneLine_render onLine member)
  | (name, member) :: next :: members =>
      ((((IsOneLine.of_renderString name).append onLine.names).append
        (isOneLine_render onLine member)).append onLine.items).append
          (isOneLine_renderMembers onLine (next :: members))

end

end RpcSession.Json
