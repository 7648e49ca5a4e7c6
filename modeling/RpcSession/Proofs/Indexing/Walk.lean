import RpcSession.Proofs.Indexing.Percentage

/-!
# The walk of an indexing progress

What the peer is to be told of one call of the indexing receiver: a begin at zero percent, one
report for every file, and an end.
-/

namespace RpcSession.Session

def reachedPercentage (indexed files : ℕ) : Percentage :=
  ⟨min 100 (positivePercentage indexed files).1, by omega⟩

namespace Walk

def opening (token : Int) : Progress :=
  { token, title := .string "indexing", percentage := some 0 }

def report (token : Int) (files indexed : ℕ) : Progress where
  token
  stage := .reported
  title := .string "indexing"
  message := .string (toString indexed ++ " / " ++ toString (files : Int))
  percentage := some (reachedPercentage indexed files)

def ending (token : Int) (files indexed : ℕ) : Progress :=
  (report token files indexed).finish (.string "done")

def reports (token : Int) (files count : ℕ) : List Progress :=
  (List.range count).map fun index => report token files (index + 1)

theorem reports_succ (token : Int) (files count : ℕ) :
    reports token files (count + 1) =
      reports token files count ++ [report token files (count + 1)] := by
  rw [reports, List.range_succ, List.map_append, reports, List.map_singleton]

@[simp] theorem length_reports (token : Int) (files count : ℕ) :
    (reports token files count).length = count := by
  rw [reports, List.length_map, List.length_range]

end Walk

/-- All that the peer is to be told. -/
def walk (token : Int) (files : ℕ) : List Progress :=
  Walk.opening token :: Walk.reports token files files ++ [Walk.ending token files files]

variable {indexed more files : ℕ}

theorem reachedPercentage_val (ordered : indexed ≤ files) :
    (reachedPercentage indexed files).val = (positivePercentage indexed files).1 :=
  Nat.min_eq_right (positivePercentage_le ordered)

theorem reachedPercentage_mono (some : 0 < indexed) (ordered : indexed ≤ more) (any : 0 < files)
    (few : files ≤ mostFiles) : reachedPercentage indexed files ≤ reachedPercentage more files :=
  Fin.mk_le_mk.mpr (min_le_min_left 100 (positivePercentage_mono some ordered any few))

/-- A hundred percent are reached with the last file and not before. -/
theorem reachedPercentage_eq_hundred_iff (any : 0 < files) (ordered : indexed ≤ files)
    (few : files ≤ mostFiles) : reachedPercentage indexed files = 100 ↔ indexed = files := by
  rw [Fin.ext_iff, reachedPercentage_val ordered]
  constructor
  · intro all
    by_contra other
    have less := positivePercentage_lt (by omega : indexed < files) few
    exact absurd all (Nat.ne_of_lt less)
  · rintro rfl
    exact positivePercentage_all any

theorem ofValue?_reachedPercentage (ordered : indexed ≤ files) :
    Percentage.ofValue? (.int ((positivePercentage indexed files).1 : ℤ)) =
      .ok (some (reachedPercentage indexed files)) := by
  have most := positivePercentage_le ordered
  rw [Percentage.ofValue?, dif_pos ⟨by omega, by omega⟩]
  congr 2
  exact Fin.ext ((Int.toNat_natCast _).trans (reachedPercentage_val ordered).symm)

end RpcSession.Session
