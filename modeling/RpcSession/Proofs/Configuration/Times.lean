import RpcSession.Proofs.Configuration.Faults

/-!
# Times of configurations

The delay of an accepted configuration is at least zero and its interval above zero, unless they
are not a number: that passes both checks, which ask for what is wrong.
-/

namespace RpcSession.Configuration

open Decimal

variable {members : List (String × Value)} {bytes : List UInt8} {configuration : Configuration}
  {fault : ConfigurationFault}

/-! ## Checks -/

theorem isNaN_zero : (0 : Float).isNaN = false := by decide +kernel

theorem not_lt_zero_iff (delay : Float) : ¬delay < 0 ↔ 0 ≤ delay ∨ delay.isNaN = true := by
  simp only [not_lt_iff, isNaN_zero, Bool.false_eq_true, or_false]

theorem not_le_zero_iff (interval : Float) :
    ¬interval ≤ 0 ↔ 0 < interval ∨ interval.isNaN = true := by
  simp only [not_le_iff, isNaN_zero, Bool.false_eq_true, or_false]

/-! ## Faults of members -/

private theorem timeOf_fault {name : String} {value : Value}
    (failed : timeOf name value = .error fault) :
    fault = .notNumeric name ∨ fault = .beyondDoubles := by
  unfold timeOf at failed
  grind

private theorem elim_timeOf_fault {name : String} {otherwise : Float}
    (failed : (members.lookup name).elim (.ok otherwise) (timeOf name) = .error fault) :
    fault = .notNumeric name ∨ fault = .beyondDoubles := by
  cases found : members.lookup name with
  | none => simp [found] at failed
  | some value =>
      rw [found] at failed
      exact timeOf_fault failed

private theorem kind_of_members_fault (refused : ofMembers members = .error fault) :
    fault.kind = "ValueError" ↔ fault ≠ .beyondDoubles := by
  rcases ofMembers_eq_error_iff.mp refused with _ | ⟨_, failed⟩ | ⟨_, _, failed⟩ | _ | _
  · decide
  · rcases elim_timeOf_fault failed with rfl | rfl <;> simp [ConfigurationFault.kind]
  · rcases elim_timeOf_fault failed with rfl | rfl <;> simp [ConfigurationFault.kind]
  · decide
  · decide

/-! ## Ranges -/

/-- A value converts to a double that is a number and fails its comparison. -/
def IsOutOfRange (members : List (String × Value)) : Prop :=
  (∃ delay, delayOf members = .ok delay ∧ ¬0 ≤ delay ∧ delay.isNaN = false) ∨
    ∃ interval, intervalOf members = .ok interval ∧ ¬0 < interval ∧ interval.isNaN = false

theorem IsTaken.ranges (taken : IsTaken members configuration) :
    (0 ≤ configuration.progressDelay ↔ configuration.progressDelay.isNaN = false) ∧
      (0 < configuration.progressInterval ↔ configuration.progressInterval.isNaN = false) := by
  have delay := (not_lt_zero_iff _).mp taken.notNegative
  have interval := (not_le_zero_iff _).mp taken.positive
  exact ⟨⟨fun least => (isNaN_of_le least).2,
      fun number => delay.resolve_right (Bool.eq_false_iff.mp number)⟩,
    ⟨fun least => (isNaN_of_lt least).2,
      fun number => interval.resolve_right (Bool.eq_false_iff.mp number)⟩⟩

private theorem not_isOutOfRange (taken : IsTaken members configuration) :
    ¬IsOutOfRange members := by
  rcases taken.ranges with ⟨delay, interval⟩
  rintro (⟨other, found, fails, number⟩ | ⟨other, found, fails, number⟩)
  · cases found.symm.trans taken.delay
    exact fails (delay.mpr number)
  · cases found.symm.trans taken.interval
    exact fails (interval.mpr number)

/-- The times of an accepted file are in range exactly if they are numbers. A time that is a number
out of range is refused as a wrong value, unless the other one is a whole number without a double,
and nothing but the kind of the capabilities and the two times decides whether a file is
accepted. -/
theorem accepted_times_in_range_iff (bytes : List UInt8) :
    (∀ configuration, ofBytes bytes = .ok configuration →
      (0 ≤ configuration.progressDelay ↔ configuration.progressDelay.isNaN = false) ∧
      (0 < configuration.progressInterval ↔ configuration.progressInterval.isNaN = false)) ∧
    ∀ members, Holds bytes members →
      (IsOutOfRange members →
        ((∃ fault, ofBytes bytes = .error fault ∧ fault.kind = "ValueError") ↔
          ¬IsBeyondDoubles bytes)) ∧
      ((∃ configuration, ofBytes bytes = .ok configuration) ↔
        (capabilitiesOf members).members?.isNone = false ∧
        ∃ delay interval, delayOf members = .ok delay ∧ intervalOf members = .ok interval ∧
          (0 ≤ delay ∨ delay.isNaN = true) ∧ (0 < interval ∨ interval.isNaN = true)) := by
  constructor
  · intro configuration accepted
    rcases isTaken_of_accepted accepted with ⟨members, _, taken⟩
    exact taken.ranges
  · intro members holds
    rw [← ofBytes_eq_beyondDoubles_iff, ofBytes_of_holds holds]
    constructor
    · intro out
      have reads := reads_ofMembers members
      cases result : ofMembers members with
      | ok configuration =>
          rw [result] at reads
          cases reads with
          | accepted taken => exact absurd out (not_isOutOfRange taken)
      | error fault => simpa using kind_of_members_fault result
    · constructor
      · rintro ⟨configuration, accepted⟩
        have reads := reads_ofMembers members
        rw [accepted] at reads
        cases reads with
        | accepted taken =>
            exact ⟨taken.object, _, _, taken.delay, taken.interval,
              (not_lt_zero_iff _).mp taken.notNegative, (not_le_zero_iff _).mp taken.positive⟩
      · rintro ⟨object, delay, interval, delayed, paced, least, positive⟩
        rcases exists_isTaken object delayed paced ((not_lt_zero_iff _).mpr least)
          ((not_le_zero_iff _).mpr positive) with ⟨configuration, accepted, _⟩
        exact ⟨configuration, accepted⟩

def timedFile : List UInt8 :=
  "\x7b\"progress_delay\": \"0.5\", \"progress_interval\": 2\x7d".toUTF8.toList

theorem accepted_times_in_range_of_timedFile :
    ∃ configuration, ofBytes timedFile = .ok configuration ∧
      0 ≤ configuration.progressDelay ∧ 0 < configuration.progressInterval := by
  have numbers : (ofBytes timedFile).toOption.any (fun configuration =>
      !configuration.progressDelay.isNaN && !configuration.progressInterval.isNaN) = true := by
    decide +kernel
  rcases exists_accepted numbers with ⟨configuration, accepted, numbers⟩
  rcases (Bool.and_eq_true _ _).mp numbers with ⟨delay, interval⟩
  have ranges := (accepted_times_in_range_iff timedFile).1 configuration accepted
  exact ⟨configuration, accepted, ranges.1.mpr ((Bool.not_eq_true' _).mp delay),
    ranges.2.mpr ((Bool.not_eq_true' _).mp interval)⟩

def namelessFile : List UInt8 := "\x7b\"progress_interval\": NaN\x7d".toUTF8.toList

/-- A file that is accepted with an interval that is not above zero. -/
theorem accepted_interval_not_positive_of_namelessFile :
    ∃ configuration, ofBytes namelessFile = .ok configuration ∧
      ¬0 < configuration.progressInterval := by
  have unordered : (ofBytes namelessFile).toOption.any (fun configuration =>
      !decide (0 < configuration.progressInterval)) = true := by decide +kernel
  rcases exists_accepted unordered with ⟨configuration, accepted, unordered⟩
  exact ⟨configuration, accepted, of_decide_eq_false ((Bool.not_eq_true' _).mp unordered)⟩

end RpcSession.Configuration
