import Mathlib.Data.List.Infix
import VerifierTrials.Proofs.Text.Basic

/-!
# Several keys replaced

Replacing keys one after the other (`Text.rewrite`) runs over the text once for each key, and a
later run reads what an earlier one has put in. Whether that makes a difference is a question about
the keys and the texts for them alone, not about the text that they are replaced in.

The measure for it is the **rewriting of a text in one sweep** (`Text.Rewrites`): at each place the
text of a rule is put in if its key stands there, and otherwise the character is kept. Unlike the
runs, a sweep does not know in which order the rules are given.

Two texts can be parts of a third one that share characters there only if one of them begins within
the other. Where this is excluded (`Text.IsApart`) between any two keys, and between keys and texts
(`Text.Independent`), a key stands in a rewritten text only where it stood before:

* keys are found again between two runs, neither broken nor made by the first one, so the runs
  come to the sweep (`Text.rewrites_rewrite`), in whatever order they are made
  (`Text.rewrite_perm`);
* behind a sweep no key is left (`Text.Rewrites.not_occurring`), and a second one changes nothing
  (`Text.rewrite_rewrite`).
-/

namespace VerifierTrials.Text

/-! ### Texts that do not share characters -/

/-- **No occurrence of the second text begins within one of the first**: they differ wherever it
would have to begin. -/
def IsApart (a b : List Char) : Prop := ∀ p ∈ a.tails, p ≠ [] → ¬p <+: b ∧ ¬b <+: p

instance (a b : List Char) : Decidable (IsApart a b) := by
  unfold IsApart
  infer_instance

variable {a b s t u : List Char} {c : Char}

/-- Of two texts that are apart, no more than one begins the same text. -/
theorem IsApart.eq_nil (apart : IsApart a b) (begins : a <+: s) (beginsToo : b <+: s) :
    a = [] := by
  by_contra nonempty
  obtain ⟨notWithin, notBeyond⟩ :=
    apart a ((List.mem_tails a a).mpr (List.suffix_refl a)) nonempty
  rcases List.prefix_or_prefix_of_prefix begins beginsToo with shorter | longer
  · exact notWithin shorter
  · exact notBeyond longer

theorem IsApart.of_cons (apart : IsApart (c :: a) b) : IsApart a b := by
  intro p among nonempty
  have within : p <:+ c :: a := ((List.mem_tails p a).mp among).trans (List.suffix_cons c a)
  exact apart p ((List.mem_tails p (c :: a)).mpr within) nonempty

/-- Whatever follows, the second text does not begin at the first character of the first. -/
theorem IsApart.not_beginning (apart : IsApart a b) (nonempty : a ≠ []) (rest : List Char) :
    ¬b <+: a ++ rest := fun begins =>
  nonempty (apart.eq_nil (List.prefix_append a rest) begins)

theorem IsApart.not_infix_append (apart : IsApart a b) (absent : ¬b <:+: s) : ¬b <:+: a ++ s := by
  induction a with
  | nil => exact absent
  | cons c a ih =>
    rw [List.cons_append, List.infix_cons_iff]
    rintro (begins | later)
    · exact apart.not_beginning (List.cons_ne_nil c a) s begins
    · exact ih apart.of_cons later

/-! ### Rules -/

/-- **A rule**: a key, and the text that is put in for it. -/
structure Rule where
  key : String
  text : String
  deriving DecidableEq, Repr

/-- **All keys replaced**, one after the other. -/
def rewrite (rules : List Rule) (s : List Char) : List Char :=
  rules.foldl (fun s rule => replaceAll rule.key.toList rule.text.toList s) s

/-- **Rules that do not get in each other's way**: no key shares characters with another key or
with a text that is put in. -/
structure Independent (rules : List Rule) : Prop where
  nonempty : ∀ rule ∈ rules, rule.key.toList ≠ []
  texts : ∀ rule ∈ rules, ∀ other ∈ rules,
    IsApart rule.key.toList other.text.toList ∧ IsApart other.text.toList rule.key.toList
  keys : ∀ rule ∈ rules, ∀ other ∈ rules, rule ≠ other →
    IsApart rule.key.toList other.key.toList

variable {rule : Rule} {rules order : List Rule}

theorem Independent.subset (independent : Independent rules) (subset : order ⊆ rules) :
    Independent order :=
  ⟨fun rule among => independent.nonempty rule (subset among),
    fun rule among other amongToo =>
      independent.texts rule (subset among) other (subset amongToo),
    fun rule among other amongToo =>
      independent.keys rule (subset among) other (subset amongToo)⟩

/-! ### One sweep -/

/-- **A text rewritten in one sweep** from the left. What is put in is not read again. -/
inductive Rewrites (rules : List Rule) : List Char → List Char → Prop
  | done : Rewrites rules [] []
  /-- Where no key stands, a character is kept. -/
  | kept {c : Char} {s t : List Char} (absent : ∀ rule ∈ rules, ¬rule.key.toList <+: c :: s)
    (further : Rewrites rules s t) : Rewrites rules (c :: s) (c :: t)
  /-- Where a key stands, its text is put in. -/
  | replaced {rule : Rule} {s t : List Char} (among : rule ∈ rules)
    (further : Rewrites rules s t) : Rewrites rules (rule.key.toList ++ s) (rule.text.toList ++ t)

/-- The order of the rules does not matter to a sweep. -/
theorem Rewrites.perm (sweep : Rewrites rules s t) (perm : order.Perm rules) :
    Rewrites order s t := by
  induction sweep with
  | done => exact .done
  | kept absent _ ih => exact .kept (fun rule among => absent rule (perm.subset among)) ih
  | replaced among _ ih => exact .replaced (perm.mem_iff.mpr among) ih

/-- A text without any key stays as it is. -/
theorem Rewrites.of_absent (absent : ∀ rule ∈ rules, ¬rule.key.toList <:+: s) :
    Rewrites rules s s := by
  induction s with
  | nil => exact .done
  | cons c s ih =>
    exact .kept (fun rule among begins => absent rule among begins.isInfix)
      (ih fun rule among later => absent rule among (later.trans (List.suffix_cons c s).isInfix))

/-- Characters are kept in front of a text as long as no key begins within them. -/
theorem Rewrites.append (apart : ∀ rule ∈ rules, IsApart a rule.key.toList)
    (further : Rewrites rules s t) : Rewrites rules (a ++ s) (a ++ t) := by
  induction a with
  | nil => exact further
  | cons c a ih =>
    refine .kept (fun rule among => ?_) (ih fun rule among => (apart rule among).of_cons)
    exact (apart rule among).not_beginning (List.cons_ne_nil c a) s

/-- Every text can be rewritten. -/
theorem exists_rewrites (nonempty : ∀ rule ∈ rules, rule.key.toList ≠ []) (s : List Char) :
    ∃ t, Rewrites rules s t := by
  induction len : s.length using Nat.strong_induction_on generalizing s with
  | _ n ih =>
    by_cases found : ∃ rule ∈ rules, rule.key.toList <+: s
    · obtain ⟨rule, among, rest, rfl⟩ := found
      have some_ := List.length_pos_iff.mpr (nonempty rule among)
      rw [List.length_append] at len
      obtain ⟨t, further⟩ := ih rest.length (by omega) rest rfl
      exact ⟨_, .replaced among further⟩
    · cases s with
      | nil => exact ⟨[], .done⟩
      | cons c s =>
        obtain ⟨t, further⟩ := ih s.length (by rw [← len]; exact Nat.lt_succ_self _) s rfl
        exact ⟨c :: t, .kept (fun rule among begins => found ⟨rule, among, begins⟩) further⟩

/-- **The beginning of a rewritten text was there before**, if no text that is put in has anything
of it: read from the left, each of its characters can only be one that has been kept. -/
theorem Rewrites.beginning (sweep : Rewrites rules s t)
    (apart : ∀ rule ∈ rules, IsApart a rule.text.toList) (begins : a <+: t) : a <+: s := by
  induction sweep generalizing a with
  | done => exact begins
  | @kept c s t _ _ ih =>
    cases a with
    | nil => exact List.nil_prefix
    | cons d a =>
      obtain ⟨rfl, later⟩ := List.cons_prefix_cons.mp begins
      exact List.cons_prefix_cons.mpr
        ⟨rfl, ih (fun rule among => (apart rule among).of_cons) later⟩
  | @replaced rule s t among _ _ =>
    have empty : a = [] := (apart rule among).eq_nil begins (List.prefix_append _ t)
    rw [empty]
    exact List.nil_prefix

/-- **No key is left behind a sweep.** -/
theorem Rewrites.not_occurring (independent : Independent rules) (sweep : Rewrites rules s t)
    (among : rule ∈ rules) : ¬rule.key.toList <:+: t := by
  induction sweep with
  | done => exact fun within => independent.nonempty rule among (List.infix_nil.mp within)
  | @kept c s t absent further ih =>
    rw [List.infix_cons_iff]
    rintro (begins | later)
    · exact absent rule among ((Rewrites.kept absent further).beginning
        (fun other amongToo => (independent.texts rule among other amongToo).1) begins)
    · exact ih later
  | @replaced other s t amongToo _ ih =>
    exact (independent.texts rule among other amongToo).2.not_infix_append ih

/-! ### A text is rewritten in one way only -/

/-- At most one key stands at the beginning of a text. -/
theorem Independent.eq_of_prefix (independent : Independent rules) {other : Rule}
    (among : rule ∈ rules) (amongToo : other ∈ rules) (begins : rule.key.toList <+: s)
    (beginsToo : other.key.toList <+: s) : rule = other := by
  by_contra different
  exact independent.nonempty rule among
    ((independent.keys rule among other amongToo different).eq_nil begins beginsToo)

theorem Rewrites.eq_nil (independent : Independent rules) (sweep : Rewrites rules [] t) :
    t = [] := by
  generalize source : [] = s at sweep
  cases sweep with
  | done => rfl
  | kept => cases source
  | replaced among =>
    exact absurd (List.append_eq_nil_iff.mp source.symm).1 (independent.nonempty _ among)

theorem Rewrites.of_cons (absent : ∀ rule ∈ rules, ¬rule.key.toList <+: c :: s)
    (sweep : Rewrites rules (c :: s) t) : ∃ t', t = c :: t' ∧ Rewrites rules s t' := by
  generalize source : c :: s = w at sweep absent
  cases sweep with
  | done => cases source
  | kept _ further =>
    cases source
    exact ⟨_, rfl, further⟩
  | replaced among => exact absurd (List.prefix_append _ _) (absent _ among)

theorem Rewrites.of_key (independent : Independent rules) (among : rule ∈ rules)
    (sweep : Rewrites rules (rule.key.toList ++ s) t) :
    ∃ t', t = rule.text.toList ++ t' ∧ Rewrites rules s t' := by
  have begins := List.prefix_append rule.key.toList s
  generalize source : rule.key.toList ++ s = w at sweep begins
  cases sweep with
  | done => exact absurd (List.prefix_nil.mp begins) (independent.nonempty rule among)
  | kept absent _ => exact absurd begins (absent rule among)
  | replaced amongToo further =>
    obtain rfl := independent.eq_of_prefix among amongToo begins (List.prefix_append _ _)
    obtain rfl := List.append_cancel_left source
    exact ⟨_, rfl, further⟩

/-- **A text is rewritten in one way only.** -/
theorem Rewrites.unique (independent : Independent rules) (sweep : Rewrites rules s t)
    (other : Rewrites rules s u) : t = u := by
  induction sweep generalizing u with
  | done => exact (other.eq_nil independent).symm
  | kept absent _ ih =>
    obtain ⟨u', rfl, further⟩ := other.of_cons absent
    rw [ih further]
  | replaced among _ ih =>
    obtain ⟨u', rfl, further⟩ := other.of_key independent among
    rw [ih further]

/-! ### Runs come to the sweep -/

theorem replaceFrom_eq_drop (old new : List Char) (n : Nat) (s : List Char) :
    replaceFrom old new n s = replaceAll old new (s.drop n) := by
  induction s generalizing n with
  | nil => cases n <;> simp [replaceAll, replaceFrom]
  | cons c s ih =>
    cases n with
    | zero => rfl
    | succ n => rw [replaceFrom, ih, List.drop_succ_cons]

/-- **One run is a sweep with its own rule only.** -/
theorem rewrites_replaceAll (nonempty : rule.key.toList ≠ []) (s : List Char) :
    Rewrites [rule] s (replaceAll rule.key.toList rule.text.toList s) := by
  induction len : s.length using Nat.strong_induction_on generalizing s with
  | _ n ih =>
    cases s with
    | nil => exact .done
    | cons c s =>
      rw [replaceAll, replaceFrom]
      split
      next found =>
        obtain ⟨rest, source⟩ := stripPrefix?_isSome_iff.mp found
        obtain ⟨k, ks, key⟩ := List.exists_cons_of_ne_nil nonempty
        -- what is swallowed are the characters of the key behind its first one
        have rest_eq : s.drop (rule.key.toList.length - 1) = rest := by
          rw [key, List.cons_append] at source
          rw [← (List.cons.inj source).2, key]
          exact List.drop_left
        have shorter : rest.length < n := by
          have := congrArg List.length rest_eq
          rw [List.length_drop] at this
          rw [List.length_cons] at len
          omega
        rw [replaceFrom_eq_drop, rest_eq, ← source]
        exact .replaced (List.mem_singleton.mpr rfl) (ih rest.length shorter rest rfl)
      next absent =>
        refine .kept (fun other among => ?_) (ih s.length ?_ s rfl)
        · obtain rfl := List.mem_singleton.mp among
          exact fun begins => absent (stripPrefix?_isSome_iff.mpr begins)
        · rw [← len]
          exact Nat.lt_succ_self _

/-- **A sweep can begin with a run of its first rule.** -/
theorem Rewrites.exists_first (independent : Independent (rule :: rules))
    (sweep : Rewrites (rule :: rules) s u) : ∃ t, Rewrites [rule] s t ∧ Rewrites rules t u := by
  have first : rule ∈ rule :: rules := List.mem_cons_self
  induction sweep with
  | done => exact ⟨[], .done, .done⟩
  | @kept c s u absent _ ih =>
    obtain ⟨t, run, further⟩ := ih
    have run : Rewrites [rule] (c :: s) (c :: t) :=
      .kept (fun other among => List.mem_singleton.mp among ▸ absent rule first) run
    refine ⟨c :: t, run, .kept (fun other among begins => ?_) further⟩
    -- the run has not made a key where there was none
    refine absent other (List.mem_cons_of_mem _ among) (run.beginning ?_ begins)
    intro rule' among'
    obtain rfl := List.mem_singleton.mp among'
    exact (independent.texts other (List.mem_cons_of_mem _ among) rule' first).1
  | @replaced other s u among _ ih =>
    obtain ⟨t, run, further⟩ := ih
    by_cases same : other = rule
    · subst same
      refine ⟨_, .replaced (List.mem_singleton.mpr rfl) run, further.append fun rule' among' => ?_⟩
      exact (independent.texts rule' (List.mem_cons_of_mem _ among') other first).2
    · refine ⟨_, run.append fun rule' among' => ?_,
        .replaced (List.mem_of_ne_of_mem same among) further⟩
      obtain rfl := List.mem_singleton.mp among'
      exact independent.keys other among rule' first same

/-- **Runs one after the other come to one sweep.** -/
theorem rewrites_rewrite (independent : Independent rules) (s : List Char) :
    Rewrites rules s (rewrite rules s) := by
  induction rules generalizing s with
  | nil => exact .of_absent fun rule among => absurd among List.not_mem_nil
  | cons rule rules ih =>
    obtain ⟨u, sweep⟩ := exists_rewrites independent.nonempty s
    obtain ⟨t, run, further⟩ := sweep.exists_first independent
    have run_eq := run.unique (independent.subset (by simp))
      (rewrites_replaceAll (independent.nonempty rule List.mem_cons_self) s)
    have rest := independent.subset (List.subset_cons_self rule rules)
    have further_eq := further.unique rest (ih rest t)
    rw [rewrite, List.foldl_cons, ← run_eq, ← rewrite, ← further_eq]
    exact sweep

/-- **The order of the runs does not matter.** -/
theorem rewrite_perm (independent : Independent rules) (perm : order.Perm rules) (s : List Char) :
    rewrite order s = rewrite rules s :=
  (rewrites_rewrite (independent.subset perm.subset) s).unique (independent.subset perm.subset)
    ((rewrites_rewrite independent s).perm perm)

/-- **Rewriting a second time changes nothing.** -/
theorem rewrite_rewrite (independent : Independent rules) (s : List Char) :
    rewrite rules (rewrite rules s) = rewrite rules s :=
  (rewrites_rewrite independent _).unique independent
    (.of_absent fun _ among => (rewrites_rewrite independent s).not_occurring independent among)

end VerifierTrials.Text
