import RpcSession.CommandLine.Report
import RpcSession.Proofs.Decimal.NonFinite

/-!
# What comes of the files of configurations

A file is decoded and read, and its members are checked one after the other: what is wrong first
decides. All faults count as wrong values but one, a whole number without a double where a time is
expected.
-/

namespace RpcSession

namespace Configuration

/-! ## Members -/

def capabilitiesOf (members : List (String × Value)) : Value :=
  (members.lookup "capabilities").getD ({} : Configuration).capabilities

def delayOf (members : List (String × Value)) : Except ConfigurationFault Float :=
  (members.lookup "progress_delay").elim (.ok ({} : Configuration).progressDelay)
    (timeOf "progress_delay")

def intervalOf (members : List (String × Value)) : Except ConfigurationFault Float :=
  (members.lookup "progress_interval").elim (.ok ({} : Configuration).progressInterval)
    (timeOf "progress_interval")

def logLevelOf (members : List (String × Value)) : String :=
  (members.lookup "log_level").elim "INFO" fun level => Text.uppercase level.display

variable {members : List (String × Value)} {configuration : Configuration} {delay interval : Float}
  {fault : ConfigurationFault}

/-- What an accepted configuration takes from the members of its file. -/
structure IsTaken (members : List (String × Value)) (configuration : Configuration) : Prop where
  object : (capabilitiesOf members).members?.isNone = false
  delay : delayOf members = .ok configuration.progressDelay
  interval : intervalOf members = .ok configuration.progressInterval
  notNegative : ¬configuration.progressDelay < 0
  positive : ¬configuration.progressInterval ≤ 0
  capabilities : configuration.capabilities = capabilitiesOf members
  logLevel : configuration.logLevel = logLevelOf members

inductive Reads (members : List (String × Value)) :
    Except ConfigurationFault Configuration → Prop
  | capabilities (other : (capabilitiesOf members).members?.isNone = true) :
      Reads members (.error .capabilitiesNotObject)
  | delay {fault : ConfigurationFault}
      (object : (capabilitiesOf members).members?.isNone = false)
      (failed : delayOf members = .error fault) : Reads members (.error fault)
  | interval {delay : Float} {fault : ConfigurationFault}
      (object : (capabilitiesOf members).members?.isNone = false)
      (delayed : delayOf members = .ok delay)
      (failed : intervalOf members = .error fault) : Reads members (.error fault)
  | negative {delay interval : Float}
      (object : (capabilitiesOf members).members?.isNone = false)
      (delayed : delayOf members = .ok delay) (paced : intervalOf members = .ok interval)
      (negative : delay < 0) : Reads members (.error .negativeDelay)
  | nonPositive {delay interval : Float}
      (object : (capabilitiesOf members).members?.isNone = false)
      (delayed : delayOf members = .ok delay) (paced : intervalOf members = .ok interval)
      (notNegative : ¬delay < 0) (small : interval ≤ 0) :
      Reads members (.error .nonPositiveInterval)
  | accepted {configuration : Configuration} (taken : IsTaken members configuration) :
      Reads members (.ok configuration)

theorem reads_ofMembers (members : List (String × Value)) :
    Reads members (ofMembers members) := by
  unfold ofMembers
  simp only [bind, Except.bind, throw, throwThe, MonadExceptOf.throw, pure, Except.pure]
  split
  · rename_i other
    exact .capabilities other
  rename_i object
  have object := Bool.eq_false_iff.mpr object
  split
  · rename_i failed
    exact .delay object failed
  rename_i delayed
  split
  · rename_i failed
    exact .interval object delayed failed
  rename_i paced
  split
  · rename_i negative
    exact .negative object delayed paced negative
  rename_i notNegative
  split
  · rename_i small
    exact .nonPositive object delayed paced notNegative small
  · rename_i positive
    exact .accepted ⟨object, delayed, paced, notNegative, positive, rfl, rfl⟩

/-- The checks leave no choice between faults, nor between a fault and none. -/
private theorem Reads.eq_of_refused {result : Except ConfigurationFault Configuration}
    (refused : Reads members (.error fault)) (reads : Reads members result) :
    result = .error fault := by
  cases reads with
  | accepted taken =>
      rcases taken with ⟨object, delayed, paced, notNegative, positive, _, _⟩
      cases refused <;> simp_all
  | capabilities | delay | interval | negative | nonPositive => cases refused <;> simp_all

theorem ofMembers_eq_error_iff :
    ofMembers members = .error fault ↔ Reads members (.error fault) := by
  have reads := reads_ofMembers members
  constructor
  · intro failed
    rwa [failed] at reads
  · intro refused
    exact refused.eq_of_refused reads

theorem exists_isTaken (object : (capabilitiesOf members).members?.isNone = false)
    (delayed : delayOf members = .ok delay) (paced : intervalOf members = .ok interval)
    (notNegative : ¬delay < 0) (positive : ¬interval ≤ 0) :
    ∃ configuration, ofMembers members = .ok configuration ∧ IsTaken members configuration ∧
      configuration.progressDelay = delay ∧ configuration.progressInterval = interval := by
  have reads := reads_ofMembers members
  generalize ofMembers members = result at reads ⊢
  cases reads with
  | accepted taken =>
      exact ⟨_, rfl, taken, Except.ok.inj (taken.delay.symm.trans delayed),
        Except.ok.inj (taken.interval.symm.trans paced)⟩
  | capabilities | delay | interval | negative | nonPositive => simp_all

/-! ## Files -/

def Holds (bytes : List UInt8) (members : List (String × Value)) : Prop :=
  ∃ characters, Text.Utf8.decode bytes = .ok characters ∧
    Json.read (joinLineEnds characters) = .ok (.object members)

variable {bytes : List UInt8}

theorem ofBytes_of_holds (holds : Holds bytes members) :
    ofBytes bytes = ofMembers members := by
  rcases holds with ⟨characters, decoded, document⟩
  rw [ofBytes, decoded]
  dsimp only
  rw [ofDocument, document]

theorem holds_or_fault (bytes : List UInt8) :
    (∃ members, Holds bytes members) ∨
      ∃ fault, ofBytes bytes = .error fault ∧ fault.isOrdinary = true := by
  unfold ofBytes
  cases decoded : Text.Utf8.decode bytes with
  | error error => exact .inr ⟨_, rfl, rfl⟩
  | ok characters =>
      dsimp only
      unfold ofDocument
      cases document : Json.read (joinLineEnds characters) with
      | error error => exact .inr ⟨_, rfl, rfl⟩
      | ok value =>
          cases value with
          | object members => exact .inl ⟨members, characters, decoded, document⟩
          | null | bool | int | float | string | array | foreign => exact .inr ⟨_, rfl, rfl⟩

theorem isTaken_of_accepted (accepted : ofBytes bytes = .ok configuration) :
    ∃ members, Holds bytes members ∧ IsTaken members configuration := by
  rcases holds_or_fault bytes with ⟨members, holds⟩ | ⟨fault, refused, _⟩
  · rw [ofBytes_of_holds holds] at accepted
    have reads := reads_ofMembers members
    rw [accepted] at reads
    cases reads with
    | accepted taken => exact ⟨members, holds, taken⟩
  · rw [accepted] at refused
    cases refused

theorem exists_accepted {test : Configuration → Bool}
    (passes : (ofBytes bytes).toOption.any test = true) :
    ∃ configuration, ofBytes bytes = .ok configuration ∧ test configuration = true := by
  cases accepted : ofBytes bytes with
  | error fault =>
      rw [accepted] at passes
      cases passes
  | ok configuration =>
      rw [accepted] at passes
      exact ⟨configuration, rfl, passes⟩

end Configuration

end RpcSession
