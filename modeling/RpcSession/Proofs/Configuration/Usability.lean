import RpcSession.Proofs.Configuration.Faults
import RpcSession.Proofs.Demonstration.StandardLines
import RpcSession.Proofs.Text.Uppercase

/-!
# Use of accepted configurations

The level of an accepted configuration is a text in capital letters. It names a level or stands for
the informational one, and the session is run, unless the text is one of two names of something
else.
-/

namespace RpcSession

/-! ## Thresholds -/

namespace Logging

/-- The numbers of the standard levels by their names, of which two levels have another one. -/
inductive NamesLevel : String → ℤ → Prop
  | level (level : Level) : NamesLevel level.name level.number
  | fatal : NamesLevel "FATAL" Level.critical.number
  | warn : NamesLevel "WARN" Level.warning.number
  | notSet : NamesLevel "NOTSET" 0

variable {name : String} {number : ℤ}

theorem lookup_levelNames_iff : levelNames.lookup name = some number ↔ NamesLevel name number := by
  constructor
  · intro found
    rcases List.lookup_eq_some_iff.mp found with ⟨before, after, split, _⟩
    have listed : (name, number) ∈ levelNames := by
      rw [split]
      exact List.mem_append_right before List.mem_cons_self
    simp only [levelNames, List.mem_cons, Prod.mk.injEq, List.not_mem_nil, or_false] at listed
    rcases listed with ⟨rfl, rfl⟩ | ⟨rfl, rfl⟩ | ⟨rfl, rfl⟩ | ⟨rfl, rfl⟩ | ⟨rfl, rfl⟩ | ⟨rfl, rfl⟩ |
      ⟨rfl, rfl⟩ | ⟨rfl, rfl⟩
    · exact .level .critical
    · exact .fatal
    · exact .level .error
    · exact .level .warning
    · exact .warn
    · exact .level .info
    · exact .level .debug
    · exact .notSet
  · rintro (level | _ | _ | _)
    · cases level <;> decide
    · decide
    · decide
    · decide

/-- A text in capital letters that is no name of something else than a level. -/
structure IsThreshold (name : String) : Prop where
  notLayout : name ≠ "BASIC_FORMAT"
  notTable : name ≠ "_STYLES"

structure StandsFor (name : String) (threshold : ℤ) : Prop where
  named : ∀ number, NamesLevel name number → threshold = number
  other : (∀ number, ¬NamesLevel name number) → threshold = Level.info.number

private theorem threshold_of_isThreshold (capital : Text.uppercase name = name)
    (isThreshold : IsThreshold name) : ∃ number, threshold name = .ok number ∧
      StandsFor name number := by
  refine ⟨(levelNames.lookup name).getD Level.info.number, ?_, ?_, ?_⟩
  · unfold threshold
    rw [capital]
    split
    · exact absurd rfl isThreshold.notLayout
    · exact absurd rfl isThreshold.notTable
    · rfl
  · intro number names
    rw [lookup_levelNames_iff.mpr names, Option.getD_some]
  · intro none
    have unknown : levelNames.lookup name = Option.none :=
      Option.eq_none_iff_forall_ne_some.mpr fun number found =>
        none number (lookup_levelNames_iff.mp found)
    rw [unknown, Option.getD_none]

private theorem threshold_of_not_isThreshold (capital : Text.uppercase name = name)
    (other : ¬IsThreshold name) : ∃ fault, threshold name = .error fault := by
  unfold threshold
  rw [capital]
  split
  · exact ⟨_, rfl⟩
  · exact ⟨_, rfl⟩
  · rename_i notLayout notTable
    exact absurd ⟨notLayout, notTable⟩ other

/-- What becomes of the name of a level and a layout. -/
inductive Configures (name : String) (structured : Bool) : Except ThresholdFault Sink → Prop
  | sink {threshold : ℤ} (isThreshold : IsThreshold name) (stands : StandsFor name threshold) :
      Configures name structured (.ok ⟨threshold, structured⟩)
  | fault {fault : ThresholdFault} (other : ¬IsThreshold name) :
      Configures name structured (.error fault)

private theorem configures_configure (capital : Text.uppercase name = name) (structured : Bool) :
    Configures name structured (Sink.configure name structured) := by
  unfold Sink.configure
  by_cases isThreshold : IsThreshold name
  · rcases threshold_of_isThreshold capital isThreshold with ⟨number, reached, stands⟩
    rw [reached]
    exact .sink isThreshold stands
  · rcases threshold_of_not_isThreshold capital isThreshold with ⟨fault, failed⟩
    rw [failed]
    exact .fault isThreshold

end Logging

private theorem Configuration.IsTaken.capital {members : List (String × Value)}
    {configuration : Configuration} (taken : IsTaken members configuration) :
    Text.uppercase configuration.logLevel = configuration.logLevel := by
  rw [taken.logLevel, logLevelOf]
  cases members.lookup "log_level" with
  | none => decide +kernel
  | some level => exact Text.uppercase_uppercase _

/-! ## Runs

With a sink, a run writes the messages of its demonstration, and how many files are indexed is
known to be one at least. -/

namespace CommandLine

open Demonstration Logging

namespace Options

def givenFiles (options : Options) : Option Int :=
  match options.files with
  | .value files => some files
  | _ => none

def usedSeed (options : Options) (otherSeed : Int) : Option Int :=
  match options.seed with
  | .unset => some otherSeed
  | .empty => none
  | .value seed => some seed

private theorem eq_empty_of_usedSeed {options : Options} {otherSeed : ℤ}
    (none : options.usedSeed otherSeed = Option.none) : options.seed = .empty := by
  unfold usedSeed at none
  split at none
  · cases none
  · assumption
  · cases none

private theorem givenFiles_of_ofArguments {arguments : List String} {options : Options}
    (understood : ofArguments arguments = .ok options) {files : ℤ}
    (given : options.givenFiles = some files) : 1 ≤ files := by
  unfold ofArguments at understood
  simp only [bind, Except.bind, throw, throwThe, MonadExceptOf.throw, pure, Except.pure]
    at understood
  unfold givenFiles at given
  grind

end Options

variable {arguments : List String} {contents : (path : String) → Except FileFault (List UInt8)}
  {options : Options} {bytes : List UInt8} {configuration : Configuration}

theorem ofArguments_of_accepted (fuel : ℕ) (otherSeed : ℤ)
    (names : Names arguments contents options bytes)
    (accepted : Configuration.ofBytes bytes = .ok configuration) :
    Report.ofArguments fuel arguments contents otherSeed =
      .ofConfiguration fuel configuration options.givenFiles (options.usedSeed otherSeed) := by
  rcases names with ⟨understood, path, named, readable⟩
  rw [Report.ofArguments, understood]
  dsimp only
  rw [Report.ofOptions, named]
  dsimp only
  rw [readable]
  dsimp only
  rw [accepted]
  rfl

private theorem exists_indexes {given : Option ℤ} (seed : ℤ)
    (some : ∀ files, given = some files → 1 ≤ files) :
    ∃ files : ℕ, 0 < files ∧ Indexes given seed files := by
  cases given with
  | none => exact ⟨_, Nat.le_trans (by decide) (drawnFiles_range seed).1, .drawn rfl⟩
  | some files =>
      have least := some files rfl
      rcases Int.eq_ofNat_of_zero_le (by omega : 0 ≤ files) with ⟨number, rfl⟩
      exact ⟨number, by omega, .given rfl⟩

private theorem output_ofConfiguration {sink : Sink} (fuel : ℕ) (files seed : Option ℤ)
    (configured : Sink.configure configuration.logLevel configuration.structuredLogging =
      .ok sink) :
    (Report.ofConfiguration fuel configuration files seed).output =
      String.join ((written (play fuel files seed { configuration }).2).map line) := by
  rw [Report.ofConfiguration, configured]
  dsimp only
  split
  · rename_i played
    rw [played]
    exact output_eq sink _
  · rename_i played
    rw [played]
    exact output_eq sink _

private theorem ending_ofConfiguration {sink : Sink} {fuel : ℕ} {files seed : Option ℤ}
    (configured : Sink.configure configuration.logLevel configuration.structuredLogging =
      .ok sink) (ended : (play fuel files seed { configuration }).1 = .value ()) :
    (Report.ofConfiguration fuel configuration files seed).ending = .exit 0 := by
  rw [Report.ofConfiguration, configured]
  dsimp only
  split
  · rename_i played
    rw [played] at ended
    cases ended
  · rfl

/-- With a sink, a session is run to its end unless there is no seed to use, and the first message
is the reply to `initialize`. -/
private theorem ofConfiguration_runs {sink : Sink} {given : Option ℤ}
    (configured : Sink.configure configuration.logLevel configuration.structuredLogging =
      .ok sink) (positive : ¬configuration.progressInterval ≤ 0)
    (some : ∀ files, given = Option.some files → 1 ≤ files) (seed : Option ℤ) :
    ∃ enough, ∀ fuel, enough ≤ fuel →
      ((Report.ofConfiguration fuel configuration given seed).ending = .exit 0 ∨ seed = none) ∧
      ∃ others, (Report.ofConfiguration fuel configuration given seed).output =
        String.join ((greeting configuration.capabilities :: others).map line) := by
  have output (fuel : ℕ) (greets : Greets configuration (play fuel given seed { configuration })) :
      ∃ others, (Report.ofConfiguration fuel configuration given seed).output =
        String.join ((greeting configuration.capabilities :: others).map line) := by
    rcases greets.told with ⟨others, told, _⟩
    exact ⟨others, by rw [output_ofConfiguration fuel given seed configured, told]⟩
  cases seed with
  | none =>
      rcases play_greets positive given none with ⟨enough, greets⟩
      exact ⟨enough, fun fuel more => ⟨.inr rfl, output fuel (greets fuel more)⟩⟩
  | some seed =>
      rcases exists_indexes seed some with ⟨files, any, indexes⟩
      rcases play_ends positive indexes any with ⟨enough, ends⟩
      refine ⟨enough, fun fuel more => ?_⟩
      rcases ends fuel more with ⟨ended, greets⟩
      exact ⟨.inl (ending_ofConfiguration configured ended), output fuel greets⟩

/-- An accepted configuration is used exactly if its level is no name of something else than a
level: then its sink has the threshold and the layout that it asks for, and the session is run.
Otherwise the run fails with nothing written. -/
theorem accepted_configuration_is_usable_iff
    (accepted : Configuration.ofBytes bytes = .ok configuration) :
    (∃ members, Configuration.Holds bytes members ∧
      configuration.logLevel = Configuration.logLevelOf members) ∧
    ((∃ sink, Sink.configure configuration.logLevel configuration.structuredLogging = .ok sink) ↔
      IsThreshold configuration.logLevel) ∧
    (∀ sink,
      Sink.configure configuration.logLevel configuration.structuredLogging = .ok sink →
        sink.structured = configuration.structuredLogging ∧
        StandsFor configuration.logLevel sink.threshold) ∧
    ∀ arguments contents options otherSeed, Names arguments contents options bytes →
      (IsThreshold configuration.logLevel → ∃ enough, ∀ fuel, enough ≤ fuel →
        ((Report.ofArguments fuel arguments contents otherSeed).ending = .exit 0 ∨
          options.seed = .empty) ∧
        ∃ others, (Report.ofArguments fuel arguments contents otherSeed).output =
          String.join ((greeting configuration.capabilities :: others).map line)) ∧
      (¬IsThreshold configuration.logLevel → ∃ fault : ThresholdFault, ∀ fuel,
        Report.ofArguments fuel arguments contents otherSeed =
          ⟨.failed fault.kind fault.message, "", ""⟩) := by
  rcases Configuration.isTaken_of_accepted accepted with ⟨members, holds, taken⟩
  have configures := configures_configure taken.capital configuration.structuredLogging
  refine ⟨⟨members, holds, taken.logLevel⟩, ?_⟩
  cases result : Sink.configure configuration.logLevel configuration.structuredLogging with
  | ok sink =>
      rw [result] at configures
      cases configures with
      | @sink threshold isThreshold stands =>
          refine ⟨iff_of_true ⟨_, rfl⟩ isThreshold, ?_, ?_⟩
          · rintro sink ⟨⟩
            exact ⟨rfl, stands⟩
          intro arguments contents options otherSeed names
          refine ⟨fun _ => ?_, fun other => absurd isThreshold other⟩
          have some (files : ℤ) (given : options.givenFiles = Option.some files) : 1 ≤ files :=
            Options.givenFiles_of_ofArguments names.understood given
          rcases ofConfiguration_runs result taken.positive some (options.usedSeed otherSeed) with
            ⟨enough, runs⟩
          refine ⟨enough, fun fuel more => ?_⟩
          rw [ofArguments_of_accepted fuel otherSeed names accepted]
          exact (runs fuel more).imp_left (Or.imp_right Options.eq_empty_of_usedSeed)
  | error fault =>
      rw [result] at configures
      cases configures with
      | fault other =>
          refine ⟨iff_of_false nofun other, nofun, ?_⟩
          intro arguments contents options otherSeed names
          refine ⟨fun isThreshold => absurd isThreshold other, fun _ => ⟨fault, fun fuel => ?_⟩⟩
          rw [ofArguments_of_accepted fuel otherSeed names accepted, Report.ofConfiguration, result]

def warnFile : List UInt8 := "\x7b\"log_level\": \"warn\"\x7d".toUTF8.toList

theorem accepted_configuration_is_usable_of_warnFile :
    ∃ configuration, Configuration.ofBytes warnFile = .ok configuration ∧
      (∃ sink, Sink.configure configuration.logLevel configuration.structuredLogging = .ok sink ∧
        sink.threshold = 30) ∧
      ∃ enough, ∀ fuel, enough ≤ fuel →
        (Report.ofArguments fuel ["--config", "c.json"] (fun _ => .ok warnFile) 0).ending =
          .exit 0 := by
  have named : (Configuration.ofBytes warnFile).toOption.any (·.logLevel == "WARN") = true := by
    decide +kernel
  rcases Configuration.exists_accepted named with ⟨configuration, accepted, named⟩
  have level : configuration.logLevel = "WARN" := beq_iff_eq.mp named
  have isThreshold : IsThreshold configuration.logLevel := by
    rw [level]
    exact ⟨by decide, by decide⟩
  rcases accepted_configuration_is_usable_iff accepted with ⟨_, usable, stands, runs⟩
  rcases usable.mpr isThreshold with ⟨sink, configured⟩
  have names : NamesLevel configuration.logLevel 30 := level ▸ NamesLevel.warn
  rcases (runs _ _ _ 0 (names_of_config warnFile)).1 isThreshold with ⟨enough, ends⟩
  exact ⟨configuration, accepted, ⟨sink, configured, (stands sink configured).2.named 30 names⟩,
    enough, fun fuel more => (ends fuel more).1.resolve_right nofun⟩

def layoutFile : List UInt8 := "\x7b\"log_level\": \"basic_format\"\x7d".toUTF8.toList

theorem accepted_configuration_fails_of_layoutFile :
    ∃ configuration, Configuration.ofBytes layoutFile = .ok configuration ∧
      (∀ sink, Sink.configure configuration.logLevel configuration.structuredLogging ≠ .ok sink) ∧
      ∀ fuel, (Report.ofArguments fuel ["--config", "c.json"] (fun _ => .ok layoutFile) 0).ending =
        .failed "ValueError" "Unknown level: '%(levelname)s:%(name)s:%(message)s'" := by
  have named : (Configuration.ofBytes layoutFile).toOption.any (·.logLevel == "BASIC_FORMAT") =
      true := by decide +kernel
  rcases Configuration.exists_accepted named with ⟨configuration, accepted, named⟩
  have level : configuration.logLevel = "BASIC_FORMAT" := beq_iff_eq.mp named
  have capital : Text.uppercase "BASIC_FORMAT" = "BASIC_FORMAT" := by decide +kernel
  have failed : Sink.configure configuration.logLevel configuration.structuredLogging =
      .error .lineLayout := by
    rw [level, Sink.configure, threshold, capital]
    rfl
  refine ⟨configuration, accepted, fun sink configured => ?_, fun fuel => ?_⟩
  · cases failed.symm.trans configured
  · rw [ofArguments_of_accepted fuel 0 (names_of_config layoutFile) accepted,
      Report.ofConfiguration, failed]
    rfl

end CommandLine

end RpcSession
