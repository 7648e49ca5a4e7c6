import RpcSession.Proofs.Demonstration.Lines
import RpcSession.Proofs.Json.DoubleNames

/-!
# Standard lines of a demonstration

The lines of a demonstration are texts of the grammar of JSON unless there is a double among the
capabilities that is not finite: the reader of files knows names of such doubles, and the writer
writes them.
-/

namespace RpcSession.Demonstration

open Session Json

theorem elementText_line_iff (message : Value) :
    Grammar.ElementText (line message).toList ↔ message.isStandard = true := by
  have blank : Grammar.AreBlanks ['\n'] := by
    intro mark member
    cases List.mem_singleton.mp member
    rfl
  rw [toList_line]
  exact Grammar.elementText_render_iff compact_isOrdinary message blank

/-! ## What is written at all -/

variable {configuration : Configuration} {given : Option Int}

structure Greets (configuration : Configuration) (played : Outcome Unit × Session) : Prop where
  ended : played.1 ≠ .exhausted
  told : ∃ others, written played.2 = greeting configuration.capabilities :: others ∧
    ∀ message ∈ others, message.isStandard = true

private theorem greets_of_refused (fuel : ℕ) {seed : Option Int} {failure : Failure}
    (refused : askForReferences (run (fuel + 2)) given seed (introduced configuration) =
      (.failed failure, introduced configuration)) :
    Greets configuration (play (fuel + 2) given seed { configuration }) := by
  have attempted : Action.attempt (askForReferences (run (fuel + 2)) given seed)
      (introduced configuration) = (.value (.error failure), introduced configuration) := by
    rw [Action.attempt, refused]
  have drained : ∃ after, drain (run (fuel + 2)) (fuel + 2) (introduced configuration) =
        (.value (), after) ∧
      written after = [greeting configuration.capabilities] := ⟨_, rfl, rfl⟩
  rcases drained with ⟨after, drained, told⟩
  have played : play (fuel + 2) given seed { configuration } = (.failed failure, after) := by
    rw [play, Action.bind_of_value (introduce_eq _ configuration), Action.bind_of_value attempted,
      Action.bind_of_value drained]
    rfl
  rw [played]
  exact ⟨by simp, [], told, by simp⟩

private theorem exists_first_hundred {files : ℕ} (any : 0 < files) :
    ∃ left, left + 1 ≤ files ∧ reachedPercentage (left + 1) files = 100 ∧
      ∀ indexed, 0 < indexed → indexed < left + 1 → reachedPercentage indexed files ≠ 100 := by
  have last : reachedPercentage (files - 1 + 1) files = 100 := by
    rw [Nat.sub_add_cancel any, Fin.ext_iff, reachedPercentage_val (Nat.le_refl _)]
    exact positivePercentage_all any
  have reached : ∃ left, reachedPercentage (left + 1) files = 100 := ⟨_, last⟩
  refine ⟨Nat.find reached, ?_, Nat.find_spec reached, ?_⟩
  · have least : Nat.find reached ≤ files - 1 := Nat.find_min' reached last
    omega
  · intro indexed some less early
    have sooner : indexed - 1 < Nat.find reached := by omega
    refine Nat.find_min reached sooner ?_
    rwa [Nat.sub_add_cancel some]

theorem play_ends (positive : ¬configuration.progressInterval ≤ 0) {seed : Int} {files : ℕ}
    (indexes : Indexes given seed files) (any : 0 < files) :
    ∃ enough, ∀ fuel, enough ≤ fuel →
      (play fuel given (some seed) { configuration }).1 = .value () ∧
      Greets configuration (play fuel given (some seed) { configuration }) := by
  rcases exists_first_hundred any with ⟨left, ordered, all, under⟩
  refine ⟨left + 5, fun fuel enough => ?_⟩
  rcases play_walks positive indexes ordered all under (fuel - (left + 5)) with
    ⟨after, played, _, told⟩
  have same : fuel - (left + 5) + left + 5 = fuel := by omega
  rw [same] at played
  rw [played]
  refine ⟨rfl, nofun, _, told, fun message member => ?_⟩
  rcases List.mem_cons.mp member with rfl | member
  · exact opening_isPlain.standard
  · exact (remaining_isPlain member).standard

private theorem greets_of_indexes (positive : ¬configuration.progressInterval ≤ 0) {seed : Int}
    {files : ℕ} (indexes : Indexes given seed files) (any : 0 < files) :
    ∃ enough, ∀ fuel, enough ≤ fuel →
      Greets configuration (play fuel given (some seed) { configuration }) := by
  rcases play_ends positive indexes any with ⟨enough, ends⟩
  exact ⟨enough, fun fuel more => (ends fuel more).2⟩

theorem play_greets (positive : ¬configuration.progressInterval ≤ 0) (given seed : Option Int) :
    ∃ enough, ∀ fuel, enough ≤ fuel →
      Greets configuration (play fuel given seed { configuration }) := by
  have refusing (seed : Option Int) (failure : Failure)
      (refused : ∀ invoke, askForReferences invoke given seed (introduced configuration) =
        (.failed failure, introduced configuration)) :
      ∃ enough, ∀ fuel, enough ≤ fuel →
        Greets configuration (play fuel given seed { configuration }) := by
    refine ⟨2, fun fuel enough => ?_⟩
    have greets := greets_of_refused (fuel - 2) (refused (run (fuel - 2 + 2)))
    rwa [Nat.sub_add_cancel enough] at greets
  cases seed with
  | none => exact refusing none .unusableSeed fun _ => rfl
  | some seed =>
      cases given with
      | none =>
          exact greets_of_indexes positive (.drawn rfl) (Nat.le_trans (by decide)
            (drawnFiles_range seed).1)
      | some files =>
          by_cases few : files < 1
          · refine refusing (some seed) .noFiles fun invoke => ?_
            have failed : registerIndexing
                { files := some files, draw := Draw.seeded seed } (introduced configuration) =
                (.failed .noFiles, introduced configuration) := by
              rw [registerIndexing, if_pos (by simpa using few)]
              rfl
            rw [askForReferences, Action.bind_apply, failed]
          · rcases Int.eq_ofNat_of_zero_le (by omega : 0 ≤ files) with ⟨number, rfl⟩
            exact greets_of_indexes positive (.given rfl) (by omega)

/-! ## Standard lines -/

/-- With whatever files and seed, a demonstration that is given enough fuel writes only texts of the
standard exactly if the capabilities are standard: no double among them is an infinity or not a
number. -/
theorem demonstration_lines_are_standard_iff {bytes : List UInt8}
    (accepted : Configuration.ofBytes bytes = .ok configuration) (given seed : Option Int) :
    ∃ enough, ∀ fuel, enough ≤ fuel → ∃ outcome session,
      play fuel given seed { configuration } = (outcome, session) ∧ outcome ≠ .exhausted ∧
      (∀ sink, (CommandLine.Report.ofSession sink session).output =
        String.join ((written session).map line)) ∧
      ((∀ message ∈ written session, Grammar.ElementText (line message).toList) ↔
        configuration.capabilities.isStandard = true) := by
  rcases accepted_of_ofBytes accepted with ⟨_, _, _, _, taken⟩
  rcases play_greets taken.positive given seed with ⟨enough, greets⟩
  refine ⟨enough, fun fuel more => ?_⟩
  have greeted := greets fuel more
  rcases played : play fuel given seed { configuration } with ⟨outcome, session⟩
  rw [played] at greeted
  rcases greeted with ⟨ended, others, told, standard⟩
  refine ⟨outcome, session, rfl, ended, fun sink => output_eq sink session, ?_⟩
  simp only [elementText_line_iff]
  rw [told, List.forall_mem_cons, greeting_isStandard]
  exact ⟨And.left, fun capabilities => ⟨capabilities, standard⟩⟩

theorem demonstration_lines_are_standard_of_weightedFile :
    ∃ configuration, Configuration.ofBytes weightedFile = .ok configuration ∧
      ∃ fuel outcome session,
        play fuel (some 2) (some 0) { configuration } = (outcome, session) ∧
        ∀ message ∈ written session, Grammar.ElementText (line message).toList := by
  have fit : (Configuration.ofBytes weightedFile).toOption.any (·.capabilities.isStandard) =
      true := by decide +kernel
  rcases Configuration.exists_accepted fit with ⟨configuration, accepted, fit⟩
  rcases demonstration_lines_are_standard_iff accepted (some 2) (some 0) with ⟨enough, lines⟩
  rcases lines enough (Nat.le_refl _) with ⟨outcome, session, played, _, _, standard⟩
  exact ⟨configuration, accepted, enough, outcome, session, played, standard.mpr fit⟩

def namedFile : List UInt8 := "\x7b\"capabilities\":\x7b\"a\":NaN\x7d\x7d".toUTF8.toList

/-- The first line of a demonstration need not be a text of the standard. -/
theorem demonstration_line_not_standard_of_namedFile :
    ∃ configuration, Configuration.ofBytes namedFile = .ok configuration ∧
      ∃ enough, ∀ fuel, enough ≤ fuel →
        ∃ message ∈ written (play fuel (some 1) (some 0) { configuration }).2,
          ¬Grammar.ElementText (line message).toList := by
  have unfit : (Configuration.ofBytes namedFile).toOption.any (!·.capabilities.isStandard) =
      true := by decide +kernel
  rcases Configuration.exists_accepted unfit with ⟨configuration, accepted, unfit⟩
  have other : configuration.capabilities.isStandard = false := (Bool.not_eq_true' _).mp unfit
  rcases accepted_of_ofBytes accepted with ⟨_, _, _, _, taken⟩
  rcases play_greets taken.positive (some 1) (some 0) with ⟨enough, greets⟩
  refine ⟨configuration, accepted, enough, fun fuel more => ?_⟩
  rcases (greets fuel more).told with ⟨others, told, _⟩
  refine ⟨greeting configuration.capabilities, by rw [told]; exact List.mem_cons_self, ?_⟩
  rw [elementText_line_iff, greeting_isStandard, other]
  exact Bool.false_ne_true

end RpcSession.Demonstration
