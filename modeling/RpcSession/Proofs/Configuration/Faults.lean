import RpcSession.Proofs.Configuration.Reading

/-!
# Faults of configurations

Every file is accepted or refused as a wrong value, which a command line reports as wrong use,
unless a whole number without a double stands where a time is expected: that ends a run.
-/

namespace RpcSession

namespace Configuration

variable {members : List (String × Value)} {bytes : List UInt8} {configuration : Configuration}
  {fault : ConfigurationFault}

/-! ## Kinds -/

def valueErrors : List String := ["ValueError", "UnicodeDecodeError", "JSONDecodeError"]

theorem kind_mem_valueErrors_iff (fault : ConfigurationFault) :
    fault.kind ∈ valueErrors ↔ fault ≠ .beyondDoubles := by
  cases fault with
  | document error text =>
      rcases error with ⟨_ | _, _⟩ <;> simp [ConfigurationFault.kind, valueErrors]
  | encoding | rootNotObject | capabilitiesNotObject | notNumeric | beyondDoubles | negativeDelay
  | nonPositiveInterval => simp [ConfigurationFault.kind, valueErrors]

theorem isOrdinary_eq (fault : ConfigurationFault) :
    fault.isOrdinary = decide (fault ≠ .beyondDoubles) := by
  cases fault <;> simp [ConfigurationFault.isOrdinary]

/-! ## Whole numbers without a double

No finite double is nearest to such a number. It is the fault of a file if it stands where a time
is expected and nothing is wrong before it. -/

/-- A whole number that no finite double is nearest to. -/
def IsBeyond (value : Value) : Prop :=
  ∃ number : ℤ, value = .int number ∧ Decimal.leastBeyond ≤ number.natAbs

theorem timeOf_eq_beyondDoubles_iff {name : String} {value : Value} :
    timeOf name value = .error .beyondDoubles ↔ IsBeyond value := by
  unfold IsBeyond
  cases value with
  | int number =>
      have infinite := Decimal.isInf_floatOfInt_iff number
      unfold timeOf
      dsimp only
      split <;> simp_all
  | string text =>
      unfold timeOf
      dsimp only
      split <;> simp
  | null | bool | float | array | object | foreign => simp [timeOf]

theorem elim_timeOf_eq_beyondDoubles_iff {name : String} {otherwise : Float} :
    (members.lookup name).elim (.ok otherwise) (timeOf name) = .error .beyondDoubles ↔
      ∃ value, members.lookup name = some value ∧ IsBeyond value := by
  cases found : members.lookup name with
  | none => simp
  | some value => simp [timeOf_eq_beyondDoubles_iff]

/-- Such a number stands where a time is expected, and nothing is wrong before it. -/
inductive HasBeyond (members : List (String × Value)) : Prop
  | delay {value : Value} (object : (capabilitiesOf members).members?.isNone = false)
      (found : members.lookup "progress_delay" = some value) (beyond : IsBeyond value)
  | interval {value : Value} {delay : Float}
      (object : (capabilitiesOf members).members?.isNone = false)
      (delayed : delayOf members = .ok delay)
      (found : members.lookup "progress_interval" = some value) (beyond : IsBeyond value)

theorem ofMembers_eq_beyondDoubles_iff :
    ofMembers members = .error .beyondDoubles ↔ HasBeyond members := by
  rw [ofMembers_eq_error_iff]
  constructor
  · rintro (_ | ⟨object, failed⟩ | ⟨object, delayed, failed⟩)
    · rcases elim_timeOf_eq_beyondDoubles_iff.mp failed with ⟨value, found, beyond⟩
      exact .delay object found beyond
    · rcases elim_timeOf_eq_beyondDoubles_iff.mp failed with ⟨value, found, beyond⟩
      exact .interval object delayed found beyond
  · rintro (⟨object, found, beyond⟩ | ⟨object, delayed, found, beyond⟩)
    · exact .delay object (elim_timeOf_eq_beyondDoubles_iff.mpr ⟨_, found, beyond⟩)
    · exact .interval object delayed (elim_timeOf_eq_beyondDoubles_iff.mpr ⟨_, found, beyond⟩)

/-- A file with such a number where a time is expected. -/
def IsBeyondDoubles (bytes : List UInt8) : Prop :=
  ∃ members, Holds bytes members ∧ HasBeyond members

theorem ofBytes_eq_beyondDoubles_iff :
    ofBytes bytes = .error .beyondDoubles ↔ IsBeyondDoubles bytes := by
  constructor
  · intro refused
    rcases holds_or_fault bytes with ⟨members, holds⟩ | ⟨fault, other, ordinary⟩
    · rw [ofBytes_of_holds holds] at refused
      exact ⟨members, holds, ofMembers_eq_beyondDoubles_iff.mp refused⟩
    · rw [refused] at other
      cases other
      cases ordinary
  · rintro ⟨members, holds, beyond⟩
    rw [ofBytes_of_holds holds]
    exact ofMembers_eq_beyondDoubles_iff.mpr beyond

def isRefused (bytes : List UInt8) (fault : ConfigurationFault) : Bool :=
  match ofBytes bytes with
  | .error other => other = fault
  | .ok _ => false

theorem refused_of_isRefused (refused : isRefused bytes fault = true) :
    ofBytes bytes = .error fault := by
  unfold isRefused at refused
  split at refused
  · rename_i same
    rw [same, of_decide_eq_true refused]
  · cases refused

end Configuration

/-! ## Reports -/

namespace CommandLine

structure Names (arguments : List String)
    (contents : (path : String) → Except FileFault (List UInt8)) (options : Options)
    (bytes : List UInt8) : Prop where
  understood : Options.ofArguments arguments = .ok options
  readable : ∃ path, options.config = .value path ∧ contents path = .ok bytes

variable {arguments : List String} {contents : (path : String) → Except FileFault (List UInt8)}
  {options : Options} {bytes : List UInt8} {configuration : Configuration}
  {fault : ConfigurationFault}

theorem ofArguments_of_refused (fuel : ℕ) (otherSeed : ℤ)
    (names : Names arguments contents options bytes)
    (refused : Configuration.ofBytes bytes = .error fault) :
    Report.ofArguments fuel arguments contents otherSeed =
      if fault.isOrdinary then .misuse fault.message
      else { ending := .failed fault.kind fault.message } := by
  rcases names with ⟨understood, path, named, readable⟩
  rw [Report.ofArguments, understood]
  dsimp only
  rw [Report.ofOptions, named]
  dsimp only
  rw [readable]
  dsimp only
  rw [refused]

/-- Every file is accepted or refused as a wrong value, which the command line reports as wrong
use with the message of the fault, exactly if no whole number without a double stands where a time
is expected. Such a number ends the run. -/
theorem bad_configuration_is_misuse_iff (bytes : List UInt8) :
    (((∃ configuration, Configuration.ofBytes bytes = .ok configuration) ∨
        ∃ fault, Configuration.ofBytes bytes = .error fault ∧
          fault.kind ∈ Configuration.valueErrors) ↔ ¬Configuration.IsBeyondDoubles bytes) ∧
      ∀ fault, Configuration.ofBytes bytes = .error fault →
        ∀ fuel arguments contents options otherSeed, Names arguments contents options bytes →
          (¬Configuration.IsBeyondDoubles bytes →
            Report.ofArguments fuel arguments contents otherSeed =
              ⟨.exit 2, "", usage ++ "notify-ls: error: " ++ fault.message ++ "\n"⟩) ∧
          (Configuration.IsBeyondDoubles bytes →
            Report.ofArguments fuel arguments contents otherSeed =
              ⟨.failed "OverflowError" "int too large to convert to float", "", ""⟩) := by
  rw [← Configuration.ofBytes_eq_beyondDoubles_iff]
  constructor
  · cases result : Configuration.ofBytes bytes with
    | ok configuration => simp
    | error fault => simp [Configuration.kind_mem_valueErrors_iff]
  · intro fault refused fuel arguments contents options otherSeed names
    rw [ofArguments_of_refused fuel otherSeed names refused, refused,
      Configuration.isOrdinary_eq]
    constructor
    · intro other
      rw [if_pos (by simpa using other)]
      rfl
    · intro same
      cases same
      rfl

theorem names_of_config (bytes : List UInt8) :
    Names ["--config", "c.json"] (fun _ => .ok bytes) { config := .value "c.json" } bytes :=
  ⟨by decide +kernel, "c.json", rfl, rfl⟩

def negativeFile : List UInt8 := "\x7b\"progress_delay\": -1\x7d".toUTF8.toList

theorem bad_configuration_is_misuse_of_negativeFile :
    ¬Configuration.IsBeyondDoubles negativeFile ∧
      Report.ofArguments 0 ["--config", "c.json"] (fun _ => .ok negativeFile) 0 =
        ⟨.exit 2, "", usage ++ "notify-ls: error: " ++ "progress_delay must not be negative" ++
          "\n"⟩ := by
  have refused : Configuration.ofBytes negativeFile = .error .negativeDelay :=
    Configuration.refused_of_isRefused (by decide +kernel)
  have other : ¬Configuration.IsBeyondDoubles negativeFile := by
    rw [← Configuration.ofBytes_eq_beyondDoubles_iff, refused]
    simp
  have reports := (bad_configuration_is_misuse_iff negativeFile).2 _ refused 0 _ _ _ 0
    (names_of_config negativeFile)
  exact ⟨other, reports.1 other⟩

def hugeFile : List UInt8 :=
  "\x7b\"progress_delay\": 1".toUTF8.toList ++ List.replicate 309 0x30 ++ "\x7d".toUTF8.toList

/-- A file that is refused, but not as a wrong value. -/
theorem configuration_overflow_of_hugeFile :
    ∃ fault, Configuration.ofBytes hugeFile = .error fault ∧ fault.kind = "OverflowError" ∧
      fault.kind ∉ Configuration.valueErrors ∧
      (Report.ofArguments 0 ["--config", "c.json"] (fun _ => .ok hugeFile) 0).ending =
        .failed "OverflowError" "int too large to convert to float" := by
  have refused : Configuration.ofBytes hugeFile = .error .beyondDoubles :=
    Configuration.refused_of_isRefused (by decide +kernel)
  refine ⟨_, refused, rfl, by decide, ?_⟩
  rw [ofArguments_of_refused 0 0 (names_of_config hugeFile) refused]
  rfl

end CommandLine

end RpcSession
