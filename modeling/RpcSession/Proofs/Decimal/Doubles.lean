import Mathlib
import RpcSession.Decimal.Exact

/-!
# Doubles and their exact numbers

A finite double is determined by its sign, its significand and its exponent: putting these together
gives the double back.
-/

namespace RpcSession.Decimal

/-- What the significand and the exponent of a finite double satisfy. -/
structure IsDouble (significand : Nat) (exponent : Int) : Prop where
  small : significand < 2 ^ 53
  least : leastExponent ≤ exponent
  greatest : exponent ≤ 971
  leading : 2 ^ 52 ≤ significand ∨ exponent = leastExponent

variable {number : Float} {negative : Bool} {significand : Nat} {exponent : Int}

theorem toBits_of_finite (finite : Exact.ofFloat number = .finite negative significand exponent) :
    ∃ scale fraction : Nat, scale < 2047 ∧ fraction < 2 ^ 52 ∧
      number.toBits.toNat = (if negative then 2 ^ 63 else 0) + scale * 2 ^ 52 + fraction ∧
      (scale = 0 ∧ significand = fraction ∧ exponent = leastExponent ∨
        0 < scale ∧ significand = 2 ^ 52 + fraction ∧ exponent = scale - 1075) := by
  have range : number.toBits.toNat < 2 ^ 64 := number.toBits.toNat_lt
  unfold Exact.ofFloat at finite
  simp only [Nat.pow_eq] at finite
  generalize number.toBits.toNat = bits at finite range ⊢
  have sign : (if decide (2 ^ 63 ≤ bits) = true then 2 ^ 63 else 0) = bits / 2 ^ 63 * 2 ^ 63 := by
    split <;> simp_all
    omega
  split at finite
  · split at finite <;> cases finite
  · rename_i ordinary
    refine ⟨bits / 2 ^ 52 % 2 ^ 11, bits % 2 ^ 52, by omega, by omega, ?_⟩
    split at finite <;> cases finite <;> rw [sign]
    · exact ⟨by omega, .inl ⟨by omega, rfl, rfl⟩⟩
    · exact ⟨by omega, .inr ⟨by omega, rfl, rfl⟩⟩

theorem isDouble_of_finite (finite : Exact.ofFloat number = .finite negative significand exponent) :
    IsDouble significand exponent := by
  rcases toBits_of_finite finite with
    ⟨scale, fraction, small, below, _, ⟨_, rfl, rfl⟩ | ⟨_, rfl, rfl⟩⟩
  · exact ⟨by omega, Int.le_refl _, by decide, .inr rfl⟩
  · exact ⟨by omega, by unfold leastExponent; omega, by omega, .inl (by omega)⟩

theorem assemble_of_ne (negative : Bool) (exponent : Int) (fits : significand ≠ 2 ^ 53) :
    assemble negative significand exponent = Float.ofBits (UInt64.ofNat
      ((if significand < 2 ^ 52 then significand
        else if 971 < exponent then (2 ^ 11 - 1) * 2 ^ 52
        else (exponent + 1075).toNat * 2 ^ 52 + (significand - 2 ^ 52)) +
        if negative then 2 ^ 63 else 0)) := by
  simp only [assemble, Nat.pow_eq, if_neg fits]

theorem assemble_carry (negative : Bool) (exponent : Int) :
    assemble negative (2 ^ 53) (exponent - 1) = assemble negative (2 ^ 52) exponent := by
  have split : assemble negative (2 ^ 53) (exponent - 1) =
      assemble negative (2 ^ 52) (exponent - 1 + 1) := rfl
  rw [split, Int.sub_add_cancel]

theorem assemble_of_finite (finite : Exact.ofFloat number = .finite negative significand exponent) :
    assemble negative significand exponent = number := by
  have whole : ∀ magnitude : Nat,
      number.toBits.toNat = magnitude + (if negative then 2 ^ 63 else 0) →
      Float.ofBits (UInt64.ofNat (magnitude + if negative then 2 ^ 63 else 0)) = number := by
    intro magnitude same
    rw [← same, UInt64.ofNat_toNat, Float.ofBits_toBits]
  have double := isDouble_of_finite finite
  rw [assemble_of_ne negative exponent (Nat.ne_of_lt double.small)]
  apply whole
  rcases toBits_of_finite finite with
    ⟨scale, fraction, small, below, bits, ⟨none, rfl, rfl⟩ | ⟨some, rfl, rfl⟩⟩
  · rw [if_pos below]
    omega
  · have exponent : ((scale : Int) - 1075 + 1075).toNat = scale := by omega
    rw [if_neg (by omega), if_neg (by omega), exponent, bits]
    omega

end RpcSession.Decimal
