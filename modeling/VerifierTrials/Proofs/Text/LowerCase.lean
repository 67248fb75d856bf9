import Mathlib.Data.List.Infix
import VerifierTrials.Text.LowerCase

/-!
# Lower case on both sides of a separator

One letter looks at its neighbours to find its lower case, so that the lower case of two texts put
together need not be that of the two. A **separator** (`Text.Separates`) keeps them apart: it is
neither a letter with case nor one of the characters that are passed over in the look for one, and
is its own lower case (`Text.lowerFrom_separator`). The slash of path names is one, and nothing but
a slash becomes a slash (`Text.mem_lowerCase_slash`).
-/

namespace VerifierTrials.Text

/-- **A character that no letter looks beyond**, and that has no other case. -/
structure Separates (c : Char) : Prop where
  uncased : isCased c = false
  seen : isCaseIgnorable c = false
  lower : lowerChar c = [c]
  noSigma : c.toNat ≠ 0x3A3

theorem separates_slash : Separates '/' :=
  ⟨by decide +kernel, by decide +kernel, by decide, by decide⟩

variable {c : Char}

theorem casedNext_separator (separates : Separates c) (s t : List Char) :
    casedNext (s ++ c :: t) = casedNext s := by
  rw [casedNext, casedNext, List.dropWhile_append]
  cases found : s.dropWhile isCaseIgnorable with
  | nil => simp [separates.seen, separates.uncased]
  | cons d rest => rfl

/-- What stands before a separator does not matter behind it. -/
theorem lowerFrom_behind (separates : Separates c) (before more t : List Char) :
    lowerFrom (before ++ c :: more) t = lowerFrom before t := by
  induction t generalizing before with
  | nil => rfl
  | cons d t ih =>
    rw [lowerFrom, lowerFrom, casedNext_separator separates, ← List.cons_append, ih]

/-- **The lower case of two texts with a separator between them.** -/
theorem lowerFrom_separator (separates : Separates c) (before s t : List Char) :
    lowerFrom before (s ++ c :: t) = lowerFrom before s ++ c :: lowerFrom [] t := by
  induction s generalizing before with
  | nil =>
    have behind := lowerFrom_behind separates [] before t
    rw [List.nil_append] at behind
    rw [List.nil_append, lowerFrom, lowerFrom, if_neg separates.noSigma, separates.lower, behind]
    rfl
  | cons d s ih =>
    rw [List.cons_append, lowerFrom, lowerFrom, casedNext_separator separates, ih,
      List.append_assoc]

theorem toList_lowerCase_slash (s t : String) :
    (lowerCase (s ++ "/" ++ t)).toList = (lowerCase s).toList ++ '/' :: (lowerCase t).toList := by
  have parts : (s ++ "/" ++ t).toList = s.toList ++ '/' :: t.toList := by simp
  rw [lowerCase, lowerCase, lowerCase, parts, lowerFrom_separator separates_slash]
  simp only [String.toList_ofList]

/-! ### Nothing but a slash becomes a slash -/

theorem lowerRuns_above : ∀ run ∈ lowerRuns, 0x30 ≤ (run.1 : Int) + run.2.2.2 := by
  decide +kernel

/-- Nothing beyond ASCII becomes a slash. -/
theorem lowerOf_ne_slash {n : Nat} (beyond : 0x80 ≤ n) : lowerOf n ≠ 0x2F := by
  rw [lowerOf]
  split
  next lo _ _ delta found =>
    have above := lowerRuns_above _ (List.mem_of_find?_eq_some found)
    have within := List.find?_some found
    simp only [Bool.and_eq_true, decide_eq_true_eq] at within
    simp only at above
    omega
  next => omega

theorem toLower_eq_slash : ∀ n < 0x80, (Char.ofNat n).toLower = '/' → Char.ofNat n = '/' := by
  decide

theorem eq_of_ofNat_eq_slash {n : Nat} (same : Char.ofNat n = '/') : n = 0x2F := by
  by_cases valid : n.isValidChar
  · rw [Char.ofNat, dif_pos valid] at same
    exact congrArg Char.toNat same
  · rw [Char.ofNat, dif_neg valid] at same
    exact absurd same (by decide)

theorem slash_mem_lowerChar : '/' ∈ lowerChar c ↔ c = '/' := by
  constructor
  · intro slash
    rw [lowerChar] at slash
    split at slash
    next ascii =>
      have lower := (List.mem_singleton.mp slash).symm
      rw [← Char.ofNat_toNat c] at lower ⊢
      exact toLower_eq_slash _ ascii lower
    next beyond =>
      split at slash
      next => exact absurd slash (by decide)
      next =>
        have lower := eq_of_ofNat_eq_slash (List.mem_singleton.mp slash).symm
        exact absurd lower (lowerOf_ne_slash (Nat.not_lt.mp beyond))
  · rintro rfl
    decide

theorem slash_mem_lowerFrom {before s : List Char} : '/' ∈ lowerFrom before s ↔ '/' ∈ s := by
  induction s generalizing before with
  | nil => rfl
  | cons c s ih =>
    rw [lowerFrom, List.mem_append, ih, List.mem_cons]
    refine or_congr_left ?_
    split
    next sigma =>
      have noSlash : c ≠ '/' := fun same => absurd (same ▸ sigma) (by decide)
      cases casedNext before && !casedNext s <;> simp [noSlash.symm]
    next => rw [slash_mem_lowerChar, eq_comm]

/-- **Lower case keeps the slashes of a text** and makes no new ones. -/
theorem mem_lowerCase_slash (s : String) : '/' ∈ (lowerCase s).toList ↔ '/' ∈ s.toList := by
  rw [lowerCase, String.toList_ofList, slash_mem_lowerFrom]

end VerifierTrials.Text
