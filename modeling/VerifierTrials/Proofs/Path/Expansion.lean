import VerifierTrials.Path.Expand
import Mathlib.Tactic.SplitIfs

/-!
# What expansion leaves alone

Expansion puts the home directory in for a leading tilde and the values of variables for the
references to them. A path name in which neither stands for anything is **literal**
(`Path.IsLiteral`), and expansion leaves it as it is (`Path.expand_of_isLiteral`).

The converse does not hold in every environment, since a value may bring back what it has been
put in for. It holds where no value has a dollar sign in it and the home directory does not
begin with a tilde (`Path.expand_eq_self_iff`): then each reference to a set variable takes a
dollar sign out of the text, and none comes into it (`Path.count_expandFrom`).
-/

namespace VerifierTrials.Path

/-! ### References -/

/-- The names that a text refers to, in the order in which expansion meets them, with a number
of characters still to be passed over. -/
def referencesFrom : Nat → List Char → List String
  | _, [] => []
  | n + 1, _ :: cs => referencesFrom n cs
  | 0, c :: cs =>
    if c = '$' then
      match reference? cs with
      | some (name, length) => name :: referencesFrom length cs
      | none => referencesFrom 0 cs
    else referencesFrom 0 cs

/-- **The names that a path name refers to.** -/
def references (path : String) : List String := referencesFrom 0 path.toList

/-- **A path name that begins in the home directory.** -/
def StartsAtHome (path : String) : Prop := path = "~" ∨ ∃ rest, path = "~/" ++ rest

/-- **A path name with nothing to expand**: there is no home directory that it could begin in,
and none of the variables that it refers to is set. -/
structure IsLiteral (env : Environment) (path : String) : Prop where
  home : StartsAtHome path → env.get? "HOME" = none
  unset : ∀ name ∈ references path, env.get? name = none

/-- **An environment whose values bring in nothing to expand**: no value has a dollar sign in
it, and the home directory does not begin with a tilde. -/
structure IsPlain (env : Environment) : Prop where
  noDollar : ∀ name value, env.get? name = some value → '$' ∉ value.toList
  noTilde : ∀ home, env.get? "HOME" = some home → home.toList.head? ≠ some '~'

variable {env : Environment} {path : String} {n : Nat} {s : List Char}

/-- It is enough that the values themselves are plain. -/
theorem isPlain_of_bindings (plain : ∀ binding ∈ env.bindings, '$' ∉ binding.2.toList)
    (noTilde : ∀ home, env.get? "HOME" = some home → home.toList.head? ≠ some '~') :
    IsPlain env := by
  refine ⟨fun name value found => ?_, noTilde⟩
  rw [Environment.get?] at found
  split at found
  next => cases found
  next =>
    obtain ⟨before, after, bindings, -⟩ := List.lookup_eq_some_iff.mp found
    exact plain (name, value) (by simp [bindings])

/-! ### Variables -/

theorem expandFrom_of_unset (unset : ∀ name ∈ referencesFrom n s, env.get? name = none) :
    expandFrom env n s = s.drop n := by
  induction s generalizing n with
  | nil => simp [expandFrom]
  | cons c cs ih =>
    cases n with
    | succ n => exact ih unset
    | zero =>
      rw [referencesFrom] at unset
      rw [expandFrom, List.drop_zero]
      split_ifs at unset ⊢ with dollar
      · cases found : reference? cs with
        | none =>
          rw [found] at unset
          dsimp only at unset ⊢
          rw [ih unset, List.drop_zero]
        | some reference =>
          obtain ⟨name, length⟩ := reference
          rw [found] at unset
          have absent : env.get? name = none := unset name List.mem_cons_self
          have rest := ih fun other within => unset other (List.mem_cons_of_mem _ within)
          simp only [absent, rest, List.take_append_drop]
      · rw [ih unset, List.drop_zero]

/-- The references to variables that are set. -/
def setReferences (env : Environment) (n : Nat) (s : List Char) : List String :=
  (referencesFrom n s).filter fun name => (env.get? name).isSome

/-- **Each reference to a set variable takes a dollar sign out of a text.** -/
theorem count_expandFrom (plain : IsPlain env) :
    (expandFrom env n s).count '$' + (setReferences env n s).length ≤ (s.drop n).count '$' := by
  induction s generalizing n with
  | nil => simp [expandFrom, setReferences, referencesFrom]
  | cons c cs ih =>
    cases n with
    | succ n => exact ih
    | zero =>
      rw [setReferences, referencesFrom, expandFrom, List.drop_zero]
      split_ifs with dollar
      · subst dollar
        cases reference? cs with
        | none =>
          have rest := @ih 0
          rw [setReferences, List.drop_zero] at rest
          simp only [List.count_cons_self]
          omega
        | some reference =>
          obtain ⟨name, length⟩ := reference
          have rest := @ih length
          rw [setReferences] at rest
          dsimp only
          cases present : env.get? name with
          | none =>
            have both : cs.count '$' = (cs.take length).count '$' + (cs.drop length).count '$' := by
              rw [← List.count_append, List.take_append_drop]
            simp only [List.count_append, List.count_cons_self, List.filter_cons, present,
              Option.isSome_none, Bool.false_eq_true, if_false]
            omega
          | some value =>
            -- the value has no dollar sign in it, and the one of the reference has gone
            have none_ : value.toList.count '$' = 0 :=
              List.count_eq_zero.mpr (plain.noDollar name value present)
            have fewer : (cs.drop length).count '$' ≤ cs.count '$' :=
              (List.drop_sublist length cs).count_le '$'
            simp only [List.count_append, List.count_cons_self, List.filter_cons, present,
              Option.isSome_some, if_true, List.length_cons]
            omega
      · have rest := @ih 0
        rw [setReferences, List.drop_zero] at rest
        rwa [List.count_cons_of_ne dollar, List.count_cons_of_ne dollar]

/-- Where values have no dollar sign, variables are expanded as soon as one is set. -/
theorem unset_of_expandVariables (plain : IsPlain env) (same : expandVariables env path = path) :
    ∀ name ∈ references path, env.get? name = none := by
  have kept : expandFrom env 0 path.toList = path.toList := by
    simpa [expandVariables] using congrArg String.toList same
  have count := count_expandFrom (n := 0) (s := path.toList) plain
  rw [kept, List.drop_zero] at count
  have none_ : setReferences env 0 path.toList = [] := List.length_eq_zero_iff.mp (by omega)
  intro name within
  have absent := List.filter_eq_nil_iff.mp none_ name within
  simpa using absent

/-! ### The home directory -/

theorem startsAtHome_iff :
    StartsAtHome path ↔
      ∃ rest, path.toList = '~' :: rest ∧ (rest = [] ∨ rest.head? = some '/') := by
  constructor
  · rintro (rfl | ⟨rest, rfl⟩)
    · exact ⟨[], rfl, .inl rfl⟩
    · exact ⟨'/' :: rest.toList, by simp, .inr rfl⟩
  · rintro ⟨rest, path_eq, ends⟩
    cases rest with
    | nil => exact .inl (String.toList_inj.mp path_eq)
    | cons c rest =>
      obtain rfl : c = '/' := by simpa using ends
      exact .inr ⟨String.ofList rest, String.toList_inj.mp (by simp [path_eq])⟩

theorem expandUser_of_not_startsAtHome (elsewhere : ¬StartsAtHome path) :
    expandUser env path = path := by
  rw [startsAtHome_iff] at elsewhere
  rw [expandUser]
  split
  next rest path_eq =>
    rw [if_neg]
    intro ends
    exact elsewhere ⟨rest, path_eq, by simpa using ends⟩
  next => rfl

theorem expandUser_of_startsAtHome {rest : List Char} (path_eq : path.toList = '~' :: rest)
    (ends : rest = [] ∨ rest.head? = some '/') :
    expandUser env path =
      match env.get? "HOME" with
      | some home => trimSlashes home ++ String.ofList rest
      | none => path := by
  rw [expandUser, path_eq]
  exact if_pos (by simpa using ends)

/-- Without a home directory to begin in, the tilde stays. -/
theorem expandUser_of_home (home : StartsAtHome path → env.get? "HOME" = none) :
    expandUser env path = path := by
  by_cases starts : StartsAtHome path
  · obtain ⟨rest, path_eq, ends⟩ := startsAtHome_iff.mp starts
    rw [expandUser_of_startsAtHome path_eq ends, home starts]
  · exact expandUser_of_not_startsAtHome starts

theorem trimSlashes_prefix (home : String) : (trimSlashes home).toList <+: home.toList := by
  rw [trimSlashes, String.toList_ofList, ← List.reverse_suffix, List.reverse_reverse]
  exact List.dropWhile_suffix _

/-- A path name whose tilde has been expanded does not begin with a tilde again. -/
theorem expand_ne_of_startsAtHome (plain : IsPlain env) {home : String}
    (set_ : env.get? "HOME" = some home) (starts : StartsAtHome path) :
    expand env path ≠ path := by
  obtain ⟨rest, path_eq, ends⟩ := startsAtHome_iff.mp starts
  intro same
  have expanded : expandFrom env 0 ((trimSlashes home).toList ++ rest) = '~' :: rest := by
    have lists := congrArg String.toList same
    rw [expand, expandUser_of_startsAtHome path_eq ends, set_] at lists
    simpa [expandVariables, path_eq] using lists
  obtain ⟨slashes, home_eq⟩ := trimSlashes_prefix home
  cases kept : (trimSlashes home).toList with
  | nil =>
    rw [kept, List.nil_append] at expanded
    cases rest with
    | nil => cases expanded
    | cons c rest =>
      obtain rfl : c = '/' := by simpa using ends
      simp [expandFrom] at expanded
  | cons c cs =>
    -- the first character of the home directory stays the first one of the path name
    rw [kept] at expanded home_eq
    have noTilde : c ≠ '~' := by
      rintro rfl
      exact plain.noTilde home set_ (by rw [← home_eq]; rfl)
    have noDollar : c ≠ '$' := by
      rintro rfl
      exact plain.noDollar "HOME" home set_ (by rw [← home_eq]; simp)
    rw [List.cons_append, expandFrom, if_neg noDollar] at expanded
    exact noTilde (List.cons.inj expanded).1

/-! ### Both -/

/-- **Expansion leaves a literal path name as it is.** -/
theorem expand_of_isLiteral (literal : IsLiteral env path) : expand env path = path := by
  rw [expand, expandUser_of_home literal.home, expandVariables,
    expandFrom_of_unset literal.unset, List.drop_zero, String.ofList_toList]

/-- **Expansion leaves nothing else as it is**, where values bring in nothing to expand. -/
theorem expand_eq_self_iff (plain : IsPlain env) : expand env path = path ↔ IsLiteral env path := by
  refine ⟨fun same => ?_, expand_of_isLiteral⟩
  have home : StartsAtHome path → env.get? "HOME" = none := by
    intro starts
    cases found : env.get? "HOME" with
    | none => rfl
    | some home => exact absurd same (expand_ne_of_startsAtHome plain found starts)
  rw [expand, expandUser_of_home home] at same
  exact ⟨home, unset_of_expandVariables plain same⟩

end VerifierTrials.Path
