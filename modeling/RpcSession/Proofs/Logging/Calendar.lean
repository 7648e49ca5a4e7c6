import Mathlib.Tactic.SplitIfs
import RpcSession.Logging.Calendar

/-!
# Times that can be told

The calendar tells every time of the years from 1 to 9999.
-/

namespace RpcSession.Logging

/-! ## Years -/

namespace CalendarTime

/-- The seconds at the start of the first year and after the last one, counted from 1970. -/
def firstSecond : Int := -62135596800

def endSecond : Int := 253402300800

/-- The year of an era in which a day lies, counted from the first of March. -/
def yearOfEra (day : Nat) : Nat := (day - day / 1460 + day / 36524 - day / 146096) / 365

private theorem yearOfEra_le {day : Nat} (inside : day < 146097) : yearOfEra day ≤ 399 := by
  unfold yearOfEra
  omega

theorem lt_of_yearOfEra_eq_zero {day : Nat} (first : yearOfEra day = 0) : day < 366 := by
  unfold yearOfEra at first
  omega

/-- The year 1 begins on day 306 of its era, and the year 9999 ends on day 146036 of era 24. -/
theorem ofSeconds_year {seconds : Int} (begun : firstSecond ≤ seconds)
    (unended : seconds < endSecond) :
    1 ≤ (ofSeconds seconds).year ∧ (ofSeconds seconds).year ≤ 9999 := by
  unfold firstSecond at begun
  unfold endSecond at unended
  unfold ofSeconds epochDay daysPerEra
  dsimp only
  rw [Int.fdiv_eq_ediv_of_nonneg _ (by decide), Int.fdiv_eq_ediv_of_nonneg _ (by decide),
    Int.fmod_eq_emod_of_nonneg _ (by decide)]
  have least : 306 ≤ seconds / 86400 + 719468 := by omega
  have most : seconds / 86400 + 719468 ≤ 3652364 := by omega
  generalize seconds / 86400 + 719468 = days at least most ⊢
  have small : (days % 146097).toNat < 146097 := by omega
  have early : 0 < days / 146097 ∨ days / 146097 = 0 ∧ 306 ≤ (days % 146097).toNat := by omega
  have late : days / 146097 < 24 ∨ days / 146097 = 24 ∧ (days % 146097).toNat ≤ 146036 := by
    omega
  generalize days / 146097 = era at early late ⊢
  generalize (days % 146097).toNat = day at small early late ⊢
  have years := yearOfEra_le small
  have first := @lt_of_yearOfEra_eq_zero day
  unfold yearOfEra at years first
  generalize (day - day / 1460 + day / 36524 - day / 146096) / 365 = year at years first ⊢
  constructor
  · rcases early with later | ⟨rfl, begun⟩
    · split_ifs <;> omega
    · split_ifs <;> omega
  · rcases late with sooner | ⟨rfl, unended⟩
    · split_ifs <;> omega
    · split_ifs <;> omega

end CalendarTime

/-! ## Times of records -/

open CalendarTime

theorem calendarTime_eq {seconds : Int} (begun : firstSecond ≤ seconds)
    (unended : seconds < endSecond) : calendarTime seconds = .ok (ofSeconds seconds) := by
  rcases ofSeconds_year begun unended with ⟨least, most⟩
  unfold firstSecond at begun
  unfold endSecond at unended
  have same : (ofSeconds seconds).year.bmod (Nat.pow 2 32) = (ofSeconds seconds).year :=
    Int.bmod_eq_of_le (by simp only [Nat.pow_eq]; omega) (by simp only [Nat.pow_eq]; omega)
  unfold calendarTime
  simp only [Nat.pow_eq] at same ⊢
  rw [if_neg (by omega), if_neg (by omega), same]

/-- Whether a time, rounded to microseconds, lies in one of the years from 1 to 9999. -/
def IsInRange (created : Value) : Prop :=
  ∃ seconds, Seconds.ofValue created = .ok seconds ∧
    firstSecond * 1000000 ≤ seconds.microseconds ∧ seconds.microseconds < endSecond * 1000000

theorem exists_fullTime {created : Value} (inRange : IsInRange created) :
    ∃ time, fullTime created = .ok time := by
  rcases inRange with ⟨seconds, counted, begun, unended⟩
  have whole : seconds.microseconds.fdiv 1000000 = seconds.microseconds / 1000000 :=
    Int.fdiv_eq_ediv_of_nonneg _ (by decide)
  have first : firstSecond ≤ seconds.microseconds / 1000000 := by
    unfold firstSecond at begun ⊢
    omega
  have last : seconds.microseconds / 1000000 < endSecond := by
    unfold endSecond at unended ⊢
    omega
  rcases ofSeconds_year first last with ⟨least, most⟩
  unfold fullTime
  rw [counted]
  simp only [bind, Except.bind, whole, calendarTime_eq first last, throw, throwThe,
    MonadExceptOf.throw, pure, Except.pure]
  rw [if_neg (by omega)]
  exact ⟨_, rfl⟩

end RpcSession.Logging
