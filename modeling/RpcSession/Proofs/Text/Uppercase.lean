import Mathlib
import RpcSession.Text.Uppercase

/-!
# Capital letters stay

Characters of a capital form are their own capital form, so that the capital form of a text is its
own.
-/

namespace RpcSession.Text

def IsCapital (character : Char) : Prop := capitalOf character = [character]

instance : DecidablePred IsCapital := fun character =>
  inferInstanceAs (Decidable (capitalOf character = [character]))

/-! ## Runs -/

namespace CapitalRun

def lastCapital (run : CapitalRun) : Nat := run.capital + (run.last - run.first)

/-- Whether the capitals of a run lie outside another run, or between the letters that the other
run takes. -/
def isClearOf (run other : CapitalRun) : Bool :=
  run.lastCapital.blt other.first || other.last.blt run.capital ||
    other.stride == 2 && (run.stride == 2 || run.first == run.last) &&
      (run.capital + other.first) % 2 == 1

theorem capital?_eq_some_iff {run : CapitalRun} {code capital : Nat} :
    run.capital? code = some capital ↔
      (run.first ≤ code ∧ code ≤ run.last ∧ (code - run.first) % run.stride = 0) ∧
        run.capital + (code - run.first) = capital := by
  unfold capital?
  split <;> simp_all

theorem capital_bounds {run : CapitalRun} {code capital : Nat}
    (found : run.capital? code = some capital) :
    run.capital ≤ capital ∧ capital ≤ run.lastCapital := by
  rcases capital?_eq_some_iff.mp found with ⟨⟨_, _, _⟩, rfl⟩
  unfold lastCapital
  omega

private theorem capital?_eq_none {run other : CapitalRun} {code capital : Nat}
    (clear : run.isClearOf other = true) (found : run.capital? code = some capital) :
    other.capital? capital = none := by
  have bounds := capital_bounds found
  rcases capital?_eq_some_iff.mp found with ⟨⟨_, _, step⟩, rfl⟩
  rw [Option.eq_none_iff_forall_ne_some]
  intro again twice
  rcases capital?_eq_some_iff.mp twice with ⟨⟨_, _, otherStep⟩, _⟩
  simp only [isClearOf, Bool.or_eq_true, Bool.and_eq_true, Nat.blt_eq, beq_iff_eq] at clear
  rcases clear with (below | above) | ⟨⟨stride, single⟩, parity⟩
  · omega
  · omega
  · rw [stride] at otherStep
    rcases single with stride | single
    · rw [stride] at step
      omega
    · omega

/-- Whether the capitals of a run are no letters with an expansion. -/
def isUnexpanded (run : CapitalRun) : Bool :=
  capitalExpansions.all fun entry => run.lastCapital.blt entry.1 || entry.1.blt run.capital

private theorem lookup_capital {run : CapitalRun} {code capital : Nat}
    (unexpanded : run.isUnexpanded = true)
    (found : run.capital? code = some capital) : capitalExpansions.lookup capital = none := by
  have bounds := capital_bounds found
  rw [List.lookup_eq_none_iff]
  intro entry member
  have apart := List.all_eq_true.mp unexpanded entry member
  simp only [Bool.or_eq_true, Nat.blt_eq] at apart
  rw [bne_iff_ne]
  omega

end CapitalRun

/-! ## The letters with a capital -/

private theorem capitalRuns_areClear :
    (capitalRuns.all fun run => capitalRuns.all run.isClearOf) = true := by
  decide +kernel

private theorem capitalRuns_areUnexpanded : (capitalRuns.all CapitalRun.isUnexpanded) = true := by
  decide +kernel

private theorem capitalRuns_areCharacters :
    ∀ run ∈ capitalRuns, run.lastCapital < 0xd800 ∨
      0xdfff < run.capital ∧ run.lastCapital < 0x110000 := by
  decide +kernel

private theorem isCapital_of_ascii : ∀ code < 0x80, IsCapital (Char.ofNat code).toUpper := by
  decide +kernel

private theorem toUpper_of_ascii :
    ∀ code < 0x80, (⟨0x61, 0x7a, 1, 0x41⟩ : CapitalRun).capital? code = none →
      (Char.ofNat code).toUpper = Char.ofNat code := by
  decide +kernel

private theorem isCapital_of_expansion :
    ∀ entry ∈ capitalExpansions, ∀ code ∈ entry.2, IsCapital (Char.ofNat code) := by
  decide +kernel

private theorem isCapital_of_run {run : CapitalRun} {code capital : Nat}
    (member : run ∈ capitalRuns)
    (found : run.capital? code = some capital) : IsCapital (Char.ofNat capital) := by
  have bounds := CapitalRun.capital_bounds found
  have valid := capitalRuns_areCharacters run member
  have same : (Char.ofNat capital).toNat = capital := by
    rw [Char.toNat_ofNat, if_pos (by unfold Nat.isValidChar; omega)]
  have clear : ∀ other ∈ capitalRuns, other.capital? capital = none := fun other another =>
    CapitalRun.capital?_eq_none
      (List.all_eq_true.mp (List.all_eq_true.mp capitalRuns_areClear run member) other another)
      found
  unfold IsCapital capitalOf
  simp only [same]
  split
  · rename_i ascii
    rw [toUpper_of_ascii capital ascii (clear _ List.mem_cons_self)]
  · rw [CapitalRun.lookup_capital (List.all_eq_true.mp capitalRuns_areUnexpanded run member) found]
    have none : capitalRuns.findSome? (·.capital? capital) = none :=
      List.findSome?_eq_none_iff.mpr clear
    rw [none]

theorem isCapital_of_mem {character capital : Char} (member : capital ∈ capitalOf character) :
    IsCapital capital := by
  by_cases ascii : character.toNat < 0x80
  · rw [capitalOf, if_pos ascii, List.mem_singleton] at member
    have upper := isCapital_of_ascii character.toNat ascii
    rwa [Char.ofNat_toNat, ← member] at upper
  have same : capitalOf character = _ := if_neg ascii
  rw [same] at member
  split at member
  · rename_i codes found
    rcases List.lookup_eq_some_iff.mp found with ⟨before, after, split, _⟩
    have entry : (character.toNat, codes) ∈ capitalExpansions := by
      rw [split]
      exact List.mem_append_right before List.mem_cons_self
    rcases List.mem_map.mp member with ⟨code, listed, rfl⟩
    exact isCapital_of_expansion _ entry code listed
  split at member
  · rename_i code found
    cases List.mem_singleton.mp member
    rcases List.exists_of_findSome?_eq_some found with ⟨run, listed, reached⟩
    exact isCapital_of_run listed reached
  · rename_i unexpanded _ unreached
    cases List.mem_singleton.mp member
    rw [IsCapital, same, unexpanded]
    dsimp only
    rw [unreached]

private theorem flatMap_capitalOf {characters : List Char}
    (capital : ∀ character ∈ characters, IsCapital character) :
    characters.flatMap capitalOf = characters := by
  induction characters with
  | nil => rfl
  | cons character characters induction =>
      rw [List.flatMap_cons, capital character List.mem_cons_self,
        induction fun other member => capital other (List.mem_cons_of_mem _ member)]
      rfl

theorem uppercase_uppercase (text : String) : uppercase (uppercase text) = uppercase text := by
  unfold uppercase
  rw [String.toList_ofList, flatMap_capitalOf]
  intro character member
  rcases List.mem_flatMap.mp member with ⟨_, _, capital⟩
  exact isCapital_of_mem capital

end RpcSession.Text
