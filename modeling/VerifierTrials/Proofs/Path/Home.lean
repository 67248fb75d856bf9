import VerifierTrials.Proofs.Path.Expansion
import VerifierTrials.Proofs.Path.Routes
import Mathlib.Data.List.TakeWhile

/-!
# Where a leading tilde leads

A path name that begins in the home directory is read from there: what stands behind its tilde is
put behind the home directory. Expansion takes the slashes at the end of the home directory off
before it does so, since a slash comes next. That makes no difference as long as something is left
to put the slashes of (`Path.resolve_slashes`): slashes before a slash, or at the end, lead nowhere.

Something is not left in one case, a tilde alone with the root for its home. Then the slashes are
all there is, and without them the path name is empty and stays where one is. This is the only case
in which a tilde does not lead home (`Path.normalize_expandUser_iff`).
-/

namespace VerifierTrials.Path

open VerifierTrials.Text

variable {env : Environment} {path : String}

/-- **A home directory that is the root**: slashes, and nothing else. -/
structure IsRoot (home : String) : Prop where
  nonempty : home ≠ ""
  slashes : ∀ c ∈ home.toList, c = '/'

instance (home : String) : Decidable (IsRoot home) :=
  decidable_of_iff (home ≠ "" ∧ home.toList.all (· == '/') = true) <| by
    simp only [List.all_eq_true, beq_iff_eq]
    exact ⟨fun ⟨nonempty, slashes⟩ => ⟨nonempty, slashes⟩, fun root => ⟨root.nonempty, root.slashes⟩⟩

/-! ### Slashes that lead nowhere -/

theorem line_succ (count : Nat) : line '/' (count + 1) = line '/' count ++ "/" := by
  rw [line, List.replicate_succ', String.ofList_append]
  rfl

/-- What a path name goes on with where a slash before it is one too many: nothing, or a slash. -/
def IsTail (behind : String) : Prop := behind = "" ∨ isAbsolute behind = true

theorem exists_of_isAbsolute (absolute : isAbsolute path = true) : ∃ more, path = "/" ++ more := by
  rw [isAbsolute, decide_eq_true_eq, List.head?_eq_some_iff] at absolute
  obtain ⟨more, chars⟩ := absolute
  exact ⟨String.ofList more, String.toList_inj.mp (by simp [chars])⟩

section Slashes

variable {before behind : String} (tail : IsTail behind) (some_ : before ++ behind ≠ "")
include tail

include some_ in
theorem isAbsolute_slash :
    isAbsolute (before ++ "/" ++ behind) = isAbsolute (before ++ behind) := by
  by_cases empty : before = ""
  · subst empty
    rw [String.empty_append] at some_ ⊢
    rw [String.empty_append, isAbsolute_append (by decide), tail.resolve_left some_]
    rfl
  · rw [String.append_assoc, isAbsolute_append empty, isAbsolute_append empty]

theorem foldl_enter_slash (before : String) (directory : List String) :
    (components (before ++ "/" ++ behind)).foldl enter directory =
      (components (before ++ behind)).foldl enter directory := by
  rw [components_slash, List.foldl_append]
  rcases tail with rfl | absolute
  · rw [String.append_empty]
    rfl
  · -- the empty component between the two slashes is the only difference
    obtain ⟨more, rfl⟩ := exists_of_isAbsolute absolute
    have parts : components ("/" ++ more) = "" :: components more := components_slash "" more
    rw [← String.append_assoc, components_slash, parts, List.foldl_append]
    rfl

include some_

/-- **A slash before another slash, or at the end, leads nowhere**, unless it is all there is. -/
theorem resolve_slash (directory : List String) :
    resolve directory (before ++ "/" ++ behind) = resolve directory (before ++ behind) := by
  rw [resolve, resolve, isAbsolute_slash tail some_, foldl_enter_slash tail]

/-- **Slashes before another slash, or at the end, lead nowhere**, unless they are all there is. -/
theorem resolve_slashes (count : Nat) (directory : List String) :
    resolve directory (before ++ line '/' count ++ behind) =
      resolve directory (before ++ behind) := by
  induction count with
  | zero =>
    have none_ : line '/' 0 = "" := rfl
    rw [none_, String.append_empty]
  | succ count ih =>
    have further : before ++ line '/' count ++ behind ≠ "" := by
      simp only [ne_eq, String.append_eq_empty_iff] at some_ ⊢
      exact fun empty => some_ ⟨empty.1.1, empty.2⟩
    rw [line_succ, ← String.append_assoc, resolve_slash tail further, ih]

end Slashes

/-! ### The home directory without its slashes -/

/-- What expansion takes off a home directory is slashes. -/
theorem exists_eq_trimSlashes (home : String) :
    ∃ count, home = trimSlashes home ++ line '/' count := by
  let ending := home.toList.reverse.takeWhile (· = '/')
  have slashes : ending = List.replicate ending.length '/' :=
    List.eq_replicate_iff.mpr ⟨rfl, fun c among => by simpa using List.mem_takeWhile_imp among⟩
  have whole : home.toList.reverse = ending ++ home.toList.reverse.dropWhile (· = '/') :=
    List.takeWhile_append_dropWhile.symm
  refine ⟨ending.length, String.toList_inj.mp ?_⟩
  rw [String.toList_append, trimSlashes, line, String.toList_ofList, String.toList_ofList,
    ← List.reverse_replicate, ← slashes, ← List.reverse_append, ← whole, List.reverse_reverse]

theorem trimSlashes_eq_empty_iff {home : String} :
    trimSlashes home = "" ↔ ∀ c ∈ home.toList, c = '/' := by
  simp [trimSlashes, ← String.toList_inj, List.dropWhile_eq_nil_iff]

/-- A home directory of which nothing is left is the root, or there was nothing of it. -/
theorem IsRoot.trimSlashes {home : String} (root : IsRoot home) : trimSlashes home = "" :=
  trimSlashes_eq_empty_iff.mpr root.slashes

/-- The root, however many slashes it is written with, is the root. -/
theorem IsRoot.normalize {home : String} (root : IsRoot home) : normalize home = "/" := by
  obtain ⟨count, whole⟩ := exists_eq_trimSlashes home
  rw [root.trimSlashes, String.empty_append] at whole
  cases count with
  | zero => exact absurd whole root.nonempty
  | succ count =>
    have top : Path.normalize "/" = "/" := by decide
    refine (normalize_eq_of_resolve fun directory => ?_).trans top
    have leads : resolve directory ("" ++ line '/' count ++ "/") = resolve directory ("" ++ "/") :=
      resolve_slashes (.inr rfl) (by decide) count directory
    rwa [String.empty_append, ← line_succ, ← whole] at leads

/-! ### Where the tilde leads -/

/-- **A tilde leads home**, from everywhere, unless it stands alone and home is the root. -/
theorem resolve_trimSlashes {home rest : String} (tail : IsTail rest)
    (notRoot : ¬(IsRoot home ∧ rest = "")) (directory : List String) :
    resolve directory (trimSlashes home ++ rest) = resolve directory (home ++ rest) := by
  by_cases none_ : trimSlashes home ++ rest = ""
  · obtain ⟨nothing, rfl⟩ := String.append_eq_empty_iff.mp none_
    have empty : home = "" := Decidable.of_not_not fun nonempty =>
      notRoot ⟨⟨nonempty, trimSlashes_eq_empty_iff.mp nothing⟩, rfl⟩
    rw [nothing, empty]
  · obtain ⟨count, whole⟩ := exists_eq_trimSlashes home
    calc resolve directory (trimSlashes home ++ rest)
        = resolve directory (trimSlashes home ++ line '/' count ++ rest) :=
          (resolve_slashes tail none_ count directory).symm
      _ = resolve directory (home ++ rest) := by rw [← whole]

/-- What stands behind the tilde of a path name that begins in the home directory. -/
theorem StartsAtHome.isTail {rest : String} (starts : StartsAtHome ("~" ++ rest)) :
    IsTail rest := by
  obtain ⟨chars, path_eq, ends⟩ := startsAtHome_iff.mp starts
  obtain rfl : rest.toList = chars := by simpa using path_eq
  exact ends.imp String.toList_eq_nil_iff.mp decide_eq_true

theorem StartsAtHome.expandUser {home rest : String} (starts : StartsAtHome ("~" ++ rest))
    (set_ : env.get? "HOME" = some home) :
    expandUser env ("~" ++ rest) = trimSlashes home ++ rest := by
  obtain ⟨chars, path_eq, ends⟩ := startsAtHome_iff.mp starts
  obtain rfl : rest.toList = chars := by simpa using path_eq
  rw [expandUser_of_startsAtHome path_eq ends, set_, String.ofList_toList]

/-- **What a leading tilde stands for.** A path name that begins in the home directory denotes the
home directory followed by the rest of it, but for a tilde alone where home is the root: nothing is
put in for that, and so it stays where one is. A path name that begins elsewhere is left as it is,
and so is every path name where no home directory is set. -/
theorem normalize_expandUser_iff (env : Environment) (path : String) :
    (∀ home rest, env.get? "HOME" = some home → StartsAtHome path → path = "~" ++ rest →
      (normalize (expandUser env path) = normalize (home ++ rest) ↔ ¬(IsRoot home ∧ rest = "")) ∧
      (IsRoot home ∧ rest = "" →
        expandUser env path = "" ∧ normalize (expandUser env path) = "." ∧
          normalize (home ++ rest) = "/")) ∧
    ((StartsAtHome path → env.get? "HOME" = none) → expandUser env path = path) := by
  refine ⟨?_, expandUser_of_home⟩
  rintro home rest set_ starts rfl
  rw [starts.expandUser set_]
  have exception : IsRoot home ∧ rest = "" →
      trimSlashes home ++ rest = "" ∧ normalize (trimSlashes home ++ rest) = "." ∧
        normalize (home ++ rest) = "/" := by
    rintro ⟨root, rfl⟩
    rw [root.trimSlashes, String.append_empty, String.append_empty, root.normalize]
    decide
  refine ⟨⟨fun same excepted => ?_, fun notRoot => ?_⟩, exception⟩
  · obtain ⟨-, here, top⟩ := exception excepted
    rw [here, top] at same
    exact absurd same (by decide)
  · exact normalize_eq_of_resolve (resolve_trimSlashes starts.isTail notRoot)

/-- The slashes at the end of a home directory, and a path name that leaves it again. -/
theorem normalize_expandUser_slashes :
    normalize (expandUser ⟨[("HOME", "/home/me//")]⟩ "~/../a.c") =
      normalize ("/home/me//" ++ "/../a.c") :=
  ((normalize_expandUser_iff ⟨[("HOME", "/home/me//")]⟩ "~/../a.c").1 "/home/me//" "/../a.c" rfl
    (.inr ⟨"../a.c", rfl⟩) rfl).1.mpr fun excepted => absurd excepted.2 (by decide)

/-- Not every tilde leads home: where home is the root, a tilde alone stays where one is. -/
theorem not_forall_normalize_expandUser :
    ¬∀ (env : Environment) (home rest : String), env.get? "HOME" = some home →
      StartsAtHome ("~" ++ rest) →
      normalize (expandUser env ("~" ++ rest)) = normalize (home ++ rest) := by
  intro all
  have same := all ⟨[("HOME", "/")]⟩ "/" "" rfl (.inl rfl)
  exact absurd same (by decide)

end VerifierTrials.Path
