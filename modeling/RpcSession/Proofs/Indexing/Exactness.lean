import RpcSession.Proofs.Indexing.SilentPeer

/-!
# How exact percentages of indexed files are

Two roundings lie between the quotient of the files and the percentage that is reported. Each
percentage is reached with one double that the quotient has to be rounded to at least. For three
percentages that is the next one after the double nearest to them, so they are reached too late, and
for some it is the one before.
-/

namespace RpcSession

namespace Decimal

/-! ## Errors -/

variable {number : ℚ} {double greater : ℕ × ℤ}

theorem IsNearest.error_le (near : IsNearest number double) :
    |valueOf double - number| ≤ 2 ^ double.2 / 2 := by
  have power : (0 : ℚ) < 2 ^ double.2 := by positivity
  have lower := near.significand.lower
  have upper := near.significand.upper
  have same : number / 2 ^ double.2 * 2 ^ double.2 = number := div_mul_cancel₀ _ power.ne'
  generalize number / 2 ^ double.2 = quotient at lower upper same
  rw [← same, valueOf, ← sub_mul, abs_mul, abs_of_pos power, div_eq_mul_inv,
    mul_comm ((2 : ℚ) ^ double.2) _]
  gcongr
  rw [abs_le]
  constructor <;> linarith

theorem IsLastPlace.le_of_lt {place bound : ℤ} (last : IsLastPlace number place)
    (least : leastExponent ≤ bound) (less : number < 2 ^ (bound + 53)) : place ≤ bound := by
  rcases last.below with same | reached
  · rwa [same]
  · have between : (2 : ℚ) ^ (place + 52) < 2 ^ (bound + 53) := lt_of_le_of_lt reached less
    have ordered := (zpow_lt_zpow_iff_right₀ (by norm_num : (1 : ℚ) < 2)).mp between
    omega

/-! ## Doubles one below another

For a double with all the bits that there are for its significand, the one before it is counted
in halves of its last place. -/

structure IsNormal (double : ℕ × ℤ) : Prop where
  leading : 2 ^ 52 ≤ double.1
  small : double.1 < 2 ^ 53

instance (double : ℕ × ℤ) : Decidable (IsNormal double) :=
  decidable_of_iff (2 ^ 52 ≤ double.1 ∧ double.1 < 2 ^ 53)
    ⟨fun both => ⟨both.1, both.2⟩, fun normal => ⟨normal.leading, normal.small⟩⟩

def before (double : ℕ × ℤ) : ℕ × ℤ :=
  if double.1 = 2 ^ 52 then (2 ^ 53 - 1, double.2 - 1) else (double.1 - 1, double.2)

private theorem valueOf_before (normal : IsNormal double) :
    ∃ halves : ℕ, valueOf (before double) = halves * 2 ^ (double.2 - 1) ∧
      2 * double.1 ≤ halves + 2 ∧ (2 ^ 52 < double.1 → 2 ^ 53 ≤ halves) ∧
      (double.1 = 2 ^ 52 → 2 ^ 53 ≤ halves + 1) := by
  have leading := normal.leading
  unfold before
  split
  · rename_i least
    exact ⟨2 ^ 53 - 1, rfl, by omega, by omega, by omega⟩
  · rename_i more
    refine ⟨2 * (double.1 - 1), ?_, by omega, by omega, by omega⟩
    rw [valueOf, zpow_sub_one₀ (by norm_num)]
    push_cast
    ring

/-- A double below another one is no greater than the one before that. -/
private theorem IsNearest.le_before (near : IsNearest number double) (normal : IsNormal greater)
    (least : leastExponent ≤ greater.2) (less : valueOf double < valueOf greater) :
    valueOf double ≤ valueOf (before greater) := by
  rcases valueOf_before normal with ⟨halves, same, close, many, most⟩
  have leading := normal.leading
  have small := normal.small
  have most' := near.significand_le
  have scale : (0 : ℚ) < 2 ^ (greater.2 - 1) := by positivity
  have twice : (2 : ℚ) ^ greater.2 = 2 * 2 ^ (greater.2 - 1) := by
    rw [zpow_sub_one₀ (by norm_num)]
    ring
  have places : double.2 ≤ greater.2 := by
    by_contra higher
    exact absurd less (not_lt.mpr
      (valueOf_le_of_place_lt small.le (near.le_significand (by omega)) (by omega)))
  rw [same]
  unfold valueOf at less ⊢
  rw [twice, ← mul_assoc, mul_comm _ (2 : ℚ)] at less
  rcases eq_or_lt_of_le places with equal | lower
  · rw [equal, twice] at less ⊢
    have fewer : (double.1 : ℚ) < greater.1 := by nlinarith
    have step : double.1 < greater.1 := by exact_mod_cast fewer
    have bound : 2 * (double.1 : ℚ) ≤ halves := by exact_mod_cast (by omega : 2 * double.1 ≤ halves)
    nlinarith
  · rcases eq_or_lt_of_le (Int.le_sub_one_of_lt lower) with next | far
    · rw [next] at less ⊢
      have fewer : (double.1 : ℚ) < 2 * greater.1 := lt_of_mul_lt_mul_right less scale.le
      have step : double.1 < 2 * greater.1 := by exact_mod_cast fewer
      have bound : double.1 ≤ halves := by
        rcases Nat.eq_or_lt_of_le leading with one | more
        · have close := most one.symm
          omega
        · exact most'.trans (many more)
      gcongr
    · have power : (2 : ℚ) * 2 ^ double.2 ≤ 2 ^ (greater.2 - 1) := by
        rw [← zpow_one_add₀ (by norm_num)]
        exact two_zpow_le (by omega)
      have bound : (double.1 : ℚ) ≤ 2 * halves := by
        exact_mod_cast (by omega : double.1 ≤ 2 * halves)
      have positive : (0 : ℚ) < 2 ^ double.2 := by positivity
      calc (double.1 : ℚ) * 2 ^ double.2 ≤ 2 * halves * 2 ^ double.2 := by gcongr
        _ = halves * (2 * 2 ^ double.2) := by ring
        _ ≤ halves * 2 ^ (greater.2 - 1) := by gcongr

end Decimal

namespace Session

open Decimal

variable {indexed files percent : ℕ}

/-! ## Where percentages are reached -/

/-- The percentages that the nearest doubles to them do not reach. -/
def latePercentages : List ℕ := [29, 57, 58]

/-- The percentages that are reached with the double before the nearest one to them. -/
def earlyPercentages : List ℕ := [5, 10, 17, 20, 23, 34, 40, 46, 67, 68, 80, 81, 92, 93]

def threshold (percent : ℕ) : ℕ × ℤ :=
  let (significand, place) := nearest percent 100
  if percent ∈ latePercentages then (significand + 1, place)
  else if percent ∈ earlyPercentages then before (significand, place)
  else (significand, place)

def percentageOfDouble (double : ℕ × ℤ) : ℕ :=
  (wholePart (hundredfold double).1 (hundredfold double).2).1

/-- What there is to check of each percentage: the threshold is a double, it reaches the percentage,
and the double before it does not. -/
structure IsThreshold (percent : ℕ) (double : ℕ × ℤ) : Prop where
  normal : IsNormal double
  place : leastExponent ≤ double.2
  reached : percent ≤ percentageOfDouble double
  missed : percentageOfDouble (before double) < percent

instance (percent : ℕ) (double : ℕ × ℤ) : Decidable (IsThreshold percent double) :=
  decidable_of_iff (IsNormal double ∧ leastExponent ≤ double.2 ∧
      percent ≤ percentageOfDouble double ∧ percentageOfDouble (before double) < percent)
    ⟨fun all => ⟨all.1, all.2.1, all.2.2.1, all.2.2.2⟩,
      fun is => ⟨is.normal, is.place, is.reached, is.missed⟩⟩

private theorem isThreshold_threshold (some : 0 < percent) (most : percent ≤ 100) :
    IsThreshold percent (threshold percent) := by
  have all : ∀ percent ∈ List.range 101, 0 < percent → IsThreshold percent (threshold percent) := by
    decide +kernel
  exact all percent (List.mem_range.mpr (Nat.lt_succ_of_le most)) some

private theorem percentageOfDouble_mono {first second : ℕ × ℤ} (positive : 0 < first.1)
    (ordered : valueOf first ≤ valueOf second) :
    percentageOfDouble first ≤ percentageOfDouble second := by
  have products := hundredfold_mono positive ordered
  rw [percentageOfDouble, percentageOfDouble, le_wholePart_iff]
  exact le_trans ((le_wholePart_iff _ _ _).mp (Nat.le_refl _)) products

/-- A percentage is reached exactly if the quotient is rounded to its threshold or more. -/
theorem le_positivePercentage_iff (some : 0 < indexed) (any : 0 < files) (few : files ≤ mostFiles)
    (least : 0 < percent) (most : percent ≤ 100) :
    percent ≤ (positivePercentage indexed files).1 ↔
      valueOf (threshold percent) ≤ valueOf (nearest indexed files) := by
  have is := isThreshold_threshold least most
  have positive : 0 < (threshold percent).1 := Nat.lt_of_lt_of_le (by decide) is.normal.leading
  have near := isNearest_nearest some any
  rw [positivePercentage_eq some]
  change percent ≤ percentageOfDouble (nearest indexed files) ↔ _
  constructor
  · intro reached
    by_contra less
    have below := near.le_before is.normal is.place (not_le.mp less)
    have missed := percentageOfDouble_mono (nearest_positive some any few) below
    exact absurd is.missed (Nat.not_lt.mpr (reached.trans missed))
  · exact fun above => is.reached.trans (percentageOfDouble_mono positive above)

/-! ## How far off percentages are

What is rounded down is the exact hundredfold of the quotient but for two errors, so a percentage
is reached if it is exceeded by enough and not reached if enough is missing. -/

private theorem abs_quotient_sub_le (some : 0 < indexed) (less : indexed < files) :
    |valueOf (nearest indexed files) - indexed / files| ≤ 1 / 2 ^ 54 := by
  have any : (0 : ℚ) < files := by exact_mod_cast Nat.zero_lt_of_lt less
  have near := isNearest_nearest some (Nat.zero_lt_of_lt less)
  have small : (indexed : ℚ) / files < 2 ^ ((-53 : ℤ) + 53) := by
    rw [neg_add_cancel, zpow_zero, div_lt_one any]
    exact_mod_cast less
  have place := near.place.le_of_lt (by decide) small
  calc |valueOf (nearest indexed files) - indexed / files|
      ≤ 2 ^ (nearest indexed files).2 / 2 := near.error_le
    _ ≤ 2 ^ (-53 : ℤ) / 2 := by
        gcongr
        norm_num
    _ = 1 / 2 ^ 54 := by norm_num

theorem abs_hundredfold_sub_lt (some : 0 < indexed) (less : indexed < files)
    (few : files ≤ mostFiles) :
    |valueOf (hundredfold (nearest indexed files)) - 100 * (indexed / files)| < 1 / 2 ^ 46 := by
  have any : 0 < files := Nat.zero_lt_of_lt less
  have first := abs_le.mp (abs_quotient_sub_le some less)
  have positive := nearest_positive some any few
  have part : (indexed : ℚ) / files < 1 := by
    rw [div_lt_one (by exact_mod_cast any)]
    exact_mod_cast less
  generalize nearest indexed files = quotient at first positive ⊢
  have near : IsNearest (100 * valueOf quotient) (hundredfold quotient) := by
    rw [← ratio_hundredfold]
    refine isNearest_nearest ?_ ?_ <;> simp only [Nat.pow_eq] <;> positivity
  have small : 100 * valueOf quotient < 2 ^ ((-46 : ℤ) + 53) := by
    norm_num
    linarith [first.2]
  have place := near.place.le_of_lt (by decide) small
  have second : |valueOf (hundredfold quotient) - 100 * valueOf quotient| ≤ 1 / 2 ^ 47 := by
    calc |valueOf (hundredfold quotient) - 100 * valueOf quotient|
        ≤ 2 ^ (hundredfold quotient).2 / 2 := near.error_le
      _ ≤ 2 ^ (-46 : ℤ) / 2 := by
          gcongr
          norm_num
      _ = 1 / 2 ^ 47 := by norm_num
  rcases abs_le.mp second with ⟨lower, upper⟩
  rw [abs_lt]
  constructor
  · linarith [first.1]
  · linarith [first.2]

theorem le_positivePercentage_iff_hundredfold (some : 0 < indexed) (percent : ℕ) :
    percent ≤ (positivePercentage indexed files).1 ↔
      (percent : ℚ) ≤ valueOf (hundredfold (nearest indexed files)) := by
  rw [positivePercentage_eq some, le_wholePart_iff]

theorem le_positivePercentage_of_exceeded (some : 0 < indexed) (less : indexed < files)
    (few : files ≤ mostFiles)
    (exceeded : 2 ^ 46 * (percent * files) + files ≤ 2 ^ 46 * (100 * indexed)) :
    percent ≤ (positivePercentage indexed files).1 := by
  rw [le_positivePercentage_iff_hundredfold some]
  have any : (0 : ℚ) < files := by exact_mod_cast Nat.zero_lt_of_lt less
  have cast : (2 : ℚ) ^ 46 * (percent * files) + files ≤ 2 ^ 46 * (100 * indexed) := by
    exact_mod_cast exceeded
  have apart : (percent : ℚ) + 1 / 2 ^ 46 ≤ 100 * (indexed / files) := by
    rw [← mul_div_assoc, le_div_iff₀ any]
    linarith
  linarith [(abs_lt.mp (abs_hundredfold_sub_lt some less few)).1]

theorem positivePercentage_lt_of_missed (some : 0 < indexed) (less : indexed < files)
    (few : files ≤ mostFiles)
    (missed : 2 ^ 46 * (100 * indexed) + files ≤ 2 ^ 46 * (percent * files)) :
    (positivePercentage indexed files).1 < percent := by
  rw [← Nat.not_le, le_positivePercentage_iff_hundredfold some, not_le]
  have any : (0 : ℚ) < files := by exact_mod_cast Nat.zero_lt_of_lt less
  have cast : (2 : ℚ) ^ 46 * (100 * indexed) + files ≤ 2 ^ 46 * (percent * files) := by
    exact_mod_cast missed
  have apart : 100 * ((indexed : ℚ) / files) + 1 / 2 ^ 46 ≤ percent := by
    rw [← mul_div_assoc, ← le_sub_iff_add_le, div_le_iff₀ any]
    linarith
  linarith [(abs_lt.mp (abs_hundredfold_sub_lt some less few)).2]

theorem positivePercentage_of_whole (some : 0 < indexed) (any : 0 < files) (most : percent ≤ 100)
    (whole : 100 * indexed = percent * files) :
    (positivePercentage indexed files).1 =
      if percent ∈ latePercentages then percent - 1 else percent := by
  have least : 0 < percent := by
    rcases Nat.eq_zero_or_pos percent with rfl | least
    · omega
    · exact least
  have same : nearest indexed files = nearest percent 100 := by
    refine nearest_eq_of_ratio some any (by decide) ?_
    have nonzero : (files : ℚ) ≠ 0 := by exact_mod_cast Nat.ne_of_gt any
    have cast : (100 : ℚ) * indexed = percent * files := by exact_mod_cast whole
    rw [div_eq_div_iff nonzero (by norm_num)]
    push_cast
    linarith
  have all : ∀ percent ∈ List.range 101, 0 < percent →
      percentageOfDouble (nearest percent 100) =
        if percent ∈ latePercentages then percent - 1 else percent := by
    decide +kernel
  rw [positivePercentage_eq some, same]
  exact all percent (List.mem_range.mpr (Nat.lt_succ_of_le most)) least

/-! ## Exactness

Of a whole percentage of the files, that percentage is reported, or the one below it. Of any
other part of not too many files the exact percentage is reported. -/

theorem exactPercentage_bounds (any : 0 < files) (indexed : ℕ) :
    100 * indexed / files * files ≤ 100 * indexed ∧
      100 * indexed < 100 * indexed / files * files + files := by
  have division := Nat.div_add_mod (100 * indexed) files
  have small := Nat.mod_lt (100 * indexed) any
  rw [Nat.mul_comm] at division
  omega

theorem exactPercentage_le (ordered : indexed ≤ files) : 100 * indexed / files ≤ 100 :=
  Nat.div_le_of_le_mul (by rw [Nat.mul_comm]; exact Nat.mul_le_mul_right 100 ordered)

private theorem positivePercentage_of_late (some : 0 < indexed) (any : 0 < files)
    (late : percent ∈ latePercentages) (whole : 100 * indexed = percent * files) :
    (positivePercentage indexed files).1 + 1 = 100 * indexed / files := by
  have bounds : ∀ percent ∈ latePercentages, 0 < percent ∧ percent ≤ 100 := by decide
  rcases bounds percent late with ⟨least, most⟩
  rw [positivePercentage_of_whole some any most whole, if_pos late, whole,
    Nat.mul_div_cancel percent any]
  exact Nat.sub_add_cancel least

private theorem positivePercentage_of_few (some : 0 < indexed) (ordered : indexed ≤ files)
    (few : files ≤ 2 ^ 46)
    (other : ∀ percent ∈ latePercentages, 100 * indexed ≠ percent * files) :
    (positivePercentage indexed files).1 = 100 * indexed / files := by
  have any : 0 < files := Nat.lt_of_lt_of_le some ordered
  have bounds := exactPercentage_bounds any indexed
  by_cases whole : 100 * indexed = 100 * indexed / files * files
  · rw [positivePercentage_of_whole some any (exactPercentage_le ordered) whole]
    exact if_neg fun late => other _ late whole
  · have less : indexed < files := by
      refine Nat.lt_of_le_of_ne ordered ?_
      rintro rfl
      rw [Nat.mul_div_cancel _ any] at whole
      exact whole rfl
    have enough : files ≤ mostFiles := few.trans (by decide)
    have reached : 100 * indexed / files ≤ (positivePercentage indexed files).1 := by
      refine le_positivePercentage_of_exceeded some less enough ?_
      omega
    have missed : (positivePercentage indexed files).1 < 100 * indexed / files + 1 := by
      refine positivePercentage_lt_of_missed some less enough ?_
      rw [Nat.add_mul]
      omega
    omega

private theorem positivePercentage_close (some : 0 < indexed) (ordered : indexed ≤ files)
    (few : files ≤ mostFiles) :
    100 * indexed / files ≤ (positivePercentage indexed files).1 + 1 ∧
      (positivePercentage indexed files).1 ≤ 100 * indexed / files + 1 := by
  have any : 0 < files := Nat.lt_of_lt_of_le some ordered
  have bounds := exactPercentage_bounds any indexed
  rcases Nat.eq_or_lt_of_le ordered with rfl | less
  · rw [positivePercentage_all any, Nat.mul_div_cancel _ any]
    omega
  · constructor
    · cases exact : 100 * indexed / files with
      | zero => exact Nat.zero_le _
      | succ percent =>
          refine Nat.succ_le_succ (le_positivePercentage_of_exceeded some less few ?_)
          rw [exact, Nat.add_mul] at bounds
          omega
    · have missed : (positivePercentage indexed files).1 < 100 * indexed / files + 2 := by
        refine positivePercentage_lt_of_missed some less few ?_
        rw [Nat.add_mul]
        omega
      omega

/-- How a reported percentage compares with the exact one. -/
structure PercentageLaw (indexed files reached : ℕ) : Prop where
  /-- Each percentage is reached with its threshold. -/
  reached_iff : ∀ percent, 0 < percent → percent ≤ 100 →
    (percent ≤ reached ↔ valueOf (threshold percent) ≤ valueOf (nearest indexed files))
  /-- The exact one is reported unless a threshold is on the wrong side of the quotient. -/
  exact_iff : reached = 100 * indexed / files ↔ ∀ percent, 0 < percent → percent ≤ 100 →
    (valueOf (threshold percent) ≤ valueOf (nearest indexed files) ↔
      percent * files ≤ 100 * indexed)
  /-- Of not too many files, the exact one is reported except for three quotients. -/
  exact_iff_of_few : files ≤ 2 ^ 46 →
    (reached = 100 * indexed / files ↔
      ∀ percent ∈ latePercentages, 100 * indexed ≠ percent * files)
  short_of_few : files ≤ 2 ^ 46 → reached ≠ 100 * indexed / files →
    reached + 1 = 100 * indexed / files
  exact_le : 100 * indexed / files ≤ reached + 1
  le_exact : reached ≤ 100 * indexed / files + 1

private theorem percentageLaw (some : 0 < indexed) (ordered : indexed ≤ files)
    (few : files ≤ mostFiles) :
    PercentageLaw indexed files (positivePercentage indexed files).1 := by
  have any : 0 < files := Nat.lt_of_lt_of_le some ordered
  have reached_iff (percent : ℕ) (least : 0 < percent) (most : percent ≤ 100) :=
    le_positivePercentage_iff some any few least most
  have most := positivePercentage_le ordered
  have exactMost := exactPercentage_le ordered
  have exact_iff (percent : ℕ) :
      percent * files ≤ 100 * indexed ↔ percent ≤ 100 * indexed / files :=
    (Nat.le_div_iff_mul_le any).symm
  rcases positivePercentage_close some ordered few with ⟨exact_le, le_exact⟩
  constructor
  · exact reached_iff
  · constructor
    · intro same percent least bound
      rw [← reached_iff percent least bound, exact_iff, same]
    · intro alike
      have both (percent : ℕ) (bound : percent ≤ 100) :
          percent ≤ (positivePercentage indexed files).1 ↔ percent ≤ 100 * indexed / files := by
        rcases Nat.eq_zero_or_pos percent with rfl | least
        · simp
        · rw [reached_iff percent least bound, alike percent least bound, exact_iff]
      exact Nat.le_antisymm ((both _ most).mp (Nat.le_refl _))
        ((both _ exactMost).mpr (Nat.le_refl _))
  · intro enough
    constructor
    · intro same percent late whole
      have short := positivePercentage_of_late some any late whole
      omega
    · exact positivePercentage_of_few some ordered enough
  · intro enough differs
    by_contra exact
    refine differs (positivePercentage_of_few some ordered enough fun percent late whole => ?_)
    exact exact (positivePercentage_of_late some any late whole)
  · exact exact_le
  · exact le_exact

/-- Every tick of an indexing progress that goes on reports how many of the files are indexed. The
percentage of that report is the exact one, rounded down, except where a threshold is on the wrong
side of the quotient; of up to `2 ^ 46` files these are 29, 57 and 58 percent, of which one less is
reported. -/
theorem reported_percentage_exact_iff (token : ℤ) (some : 0 < indexed) (ordered : indexed ≤ files)
    (few : files ≤ mostFiles) :
    let report := Walk.report token files indexed
    (∀ (invoke : Invoke) session progress timer onFinish, session.lifecycle.stage ≠ .terminated →
      session.progress? token = Option.some progress → progress.isEnded = false →
        progress.title = .string "indexing" →
        indexFile invoke timer token files onFinish indexed session =
          (do
            setProgress report
            emit invoke report
            afterFile invoke timer token files onFinish : Action Session Unit) session) ∧
    report.message = .string (toString indexed ++ " / " ++ toString (files : ℤ)) ∧
    ∃ reached : Percentage, report.percentage = Option.some reached ∧
      PercentageLaw indexed files reached.val := by
  intro report
  refine ⟨?_, rfl, reachedPercentage indexed files, rfl, ?_⟩
  · intro invoke session progress timer onFinish stage held going title
    have live : session.lifecycle.stopped = false := by
      rw [← Bool.not_eq_true]
      exact fun stopped => stage (session.lifecycle.stage_eq_terminated.mpr stopped)
    exact indexFile_of_live live held going title (Nat.lt_of_lt_of_le some ordered) ordered timer
      onFinish
  · rw [reachedPercentage_val ordered]
    exact percentageLaw some ordered few

/-- Two of three files are 66 percent. -/
theorem reported_percentage_exact_of_two_thirds :
    let report := Walk.report 1 3 2
    let session : Session := { progresses := [Walk.report 1 3 1] }
    0 < 2 ∧ 2 ≤ 3 ∧ 3 ≤ mostFiles ∧ session.lifecycle.stage ≠ .terminated ∧
      session.progress? 1 = some (Walk.report 1 3 1) ∧
      indexFile (run 1) 0 1 (3 : ℕ) none 2 session =
        (do
          setProgress report
          emit (run 1) report
          afterFile (run 1) 0 1 (3 : ℕ) none : Action Session Unit) session ∧
      report.message = .string "2 / 3" ∧ report.percentage = some 66 ∧ 100 * 2 / 3 = 66 := by
  intro report session
  have live : session.lifecycle.stage ≠ .terminated := by decide
  have held : session.progress? 1 = some (Walk.report 1 3 1) := by with_unfolding_all rfl
  rcases reported_percentage_exact_iff 1 (by decide : 0 < 2) (by decide : 2 ≤ 3) (by decide) with
    ⟨told, message, reached, percentage, law⟩
  have exact : reached.val = 100 * 2 / 3 := (law.exact_iff_of_few (by decide)).mpr (by decide)
  have same : reached = 66 := Fin.ext exact
  exact ⟨by decide, by decide, by decide, live, held, told _ _ _ _ _ live held rfl rfl, message,
    same ▸ percentage, rfl⟩

/-- The report on 29 of 100 files says 28 percent. -/
theorem reported_percentage_short_of_hundred_files :
    let options : IndexingOptions Program :=
      { files := some 100, delay := some 1, interval := some 1, draw := fun _ => .done .null,
        onFinish := none }
    let session := ({} : Session).after
      [(40, .registerIndexing options),
        (40, .notify (.string "textDocument/references") .null), (40, .advance 29)]
    session.lifecycle.stage ≠ .terminated ∧
      (session.sentProgress.getLast?.map fun told => (told.message.display, told.percentage)) =
        some ("29 / 100", some 28) ∧
      100 * 29 / 100 = 29 := by
  decide +kernel

end Session

end RpcSession
