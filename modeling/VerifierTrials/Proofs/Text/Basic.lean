import VerifierTrials.Text.Basic

/-!
# Facts about texts

A key at the front of a text is a prefix, and a key that is found in a text is found at the same
place when more follows (`Text.split?_append`); it occurs wherever it is a stretch of a text
(`Text.occursIn_iff`), also across a character between two texts (`Text.infix_separator_iff`).
Trimming takes away blanks around a text together with those that it has itself
(`Text.trim_between_blanks`). A run of characters ends where the next one is none of them
(`Text.takeWhile_run`). A number that has been written in decimal digits is read again
(`Text.unsigned?_trim_ofNat`).
-/

namespace VerifierTrials.Text

/-! ### Keys -/

theorem stripPrefix?_eq_some_iff {key s rest : List Char} :
    stripPrefix? key s = some rest ↔ s = key ++ rest := by
  induction key generalizing s with
  | nil => simp [stripPrefix?]
  | cons k ks ih =>
    cases s with
    | nil => simp [stripPrefix?]
    | cons c cs =>
      rw [stripPrefix?, List.cons_append, List.cons_eq_cons]
      split
      · rename_i same
        simp [ih, same]
      · rename_i same
        simp [Ne.symm same]

theorem length_le_of_split? {key s before rest : List Char}
    (found : split? key s = some (before, rest)) : key.length ≤ s.length := by
  induction s generalizing before with
  | nil =>
    simp only [split?, Option.map_eq_some_iff, stripPrefix?_eq_some_iff] at found
    obtain ⟨r, begins, -⟩ := found
    simp [begins]
  | cons c cs ih =>
    rw [split?] at found
    split at found
    · rename_i r begins
      simp [stripPrefix?_eq_some_iff.1 begins]
    · simp only [Option.map_eq_some_iff, Prod.mk.injEq, Prod.exists] at found
      obtain ⟨b, r, begins, -, rfl⟩ := found
      exact Nat.le_succ_of_le (ih begins)

/-- A text that has been cut at a key consists of the three. -/
theorem eq_append_of_split? {key s before rest : List Char}
    (found : split? key s = some (before, rest)) : s = before ++ (key ++ rest) := by
  induction s generalizing before with
  | nil =>
    simp only [split?, Option.map_eq_some_iff, stripPrefix?_eq_some_iff, Prod.mk.injEq] at found
    obtain ⟨r, begins, rfl, rfl⟩ := found
    exact begins
  | cons c cs ih =>
    rw [split?] at found
    split at found
    · rename_i r begins
      simp only [Option.some.injEq, Prod.mk.injEq] at found
      obtain ⟨rfl, rfl⟩ := found
      rw [stripPrefix?_eq_some_iff.1 begins, List.nil_append]
    · simp only [Option.map_eq_some_iff, Prod.mk.injEq, Prod.exists] at found
      obtain ⟨b, r, begins, rfl, rfl⟩ := found
      exact congrArg (c :: ·) (ih begins)

/-- A key that is found in a text is found at the same place when more follows. -/
theorem split?_append {key s before rest : List Char} (more : List Char)
    (found : split? key s = some (before, rest)) :
    split? key (s ++ more) = some (before, rest ++ more) := by
  induction s generalizing before with
  | nil =>
    obtain rfl : key = [] := List.length_eq_zero_iff.1 (Nat.le_zero.1 (length_le_of_split? found))
    obtain ⟨rfl, rfl⟩ : before = [] ∧ rest = [] := by
      simpa [split?, stripPrefix?, eq_comm] using found
    cases more <;> simp [split?, stripPrefix?]
  | cons c cs ih =>
    have fits := length_le_of_split? found
    rw [split?] at found
    rw [List.cons_append, split?, ← List.cons_append]
    split at found
    · rename_i r begins
      simp only [Option.some.injEq, Prod.mk.injEq] at found
      obtain ⟨rfl, rfl⟩ := found
      rw [stripPrefix?_eq_some_iff] at begins
      rw [stripPrefix?_eq_some_iff.2 (by rw [begins, List.append_assoc])]
    · rename_i begins
      simp only [Option.map_eq_some_iff, Prod.mk.injEq, Prod.exists] at found
      obtain ⟨b, r, further, rfl, rfl⟩ := found
      -- The key is not at the front now, as it is no longer than the text before `more`.
      have notAhead : stripPrefix? key (c :: cs ++ more) = none := by
        refine Option.eq_none_iff_forall_ne_some.2 fun r' ahead => ?_
        obtain ⟨t, longer⟩ := List.prefix_of_prefix_length_le
          ⟨r', (stripPrefix?_eq_some_iff.1 ahead).symm⟩ (List.prefix_append (c :: cs) more) fits
        rw [stripPrefix?_eq_some_iff.2 longer.symm] at begins
        cases begins
      rw [notAhead]
      simp [ih further]

theorem stripPrefix?_isSome_iff {key s : List Char} :
    (stripPrefix? key s).isSome = true ↔ key <+: s := by
  simp only [Option.isSome_iff_exists, stripPrefix?_eq_some_iff]
  exact ⟨fun ⟨rest, same⟩ => ⟨rest, same.symm⟩, fun ⟨rest, same⟩ => ⟨rest, same.symm⟩⟩

/-- A key occurs in a text that has it as a stretch. -/
theorem occursIn_iff {key s : List Char} : occursIn key s = true ↔ key <:+: s := by
  induction s with
  | nil =>
    rw [occursIn, split?, Option.isSome_map, stripPrefix?_isSome_iff, List.prefix_nil,
      List.infix_nil]
  | cons c cs ih =>
    rw [List.infix_cons_iff, ← ih, occursIn, occursIn, split?]
    split
    next rest found => simp [← stripPrefix?_isSome_iff, found]
    next absent => simp [← stripPrefix?_isSome_iff, absent]

/-- **A text is cut at the first occurrence of a key.** -/
theorem split?_eq_some_iff {key s before rest : List Char} :
    split? key s = some (before, rest) ↔ s = before ++ (key ++ rest) ∧
      ∀ before' rest', s = before' ++ (key ++ rest') → before.length ≤ before'.length := by
  have first : ∀ {s before rest : List Char}, split? key s = some (before, rest) →
      ∀ before' rest', s = before' ++ (key ++ rest') → before.length ≤ before'.length := by
    intro s
    induction s with
    | nil =>
      intro before rest found before' rest' _
      obtain ⟨_, _, same⟩ := Option.map_eq_some_iff.mp found
      rw [← (Prod.mk.inj same).1]
      exact Nat.zero_le _
    | cons c cs ih =>
      intro before rest found before' rest' whole
      rw [split?] at found
      split at found
      next =>
        rw [← (Prod.mk.inj (Option.some.inj found)).1]
        exact Nat.zero_le _
      next absent =>
        obtain ⟨⟨inner, back⟩, further, same⟩ := Option.map_eq_some_iff.mp found
        obtain ⟨rfl, rfl⟩ := Prod.mk.inj same
        cases before' with
        | nil =>
          -- the key would stand at the front
          have begins : stripPrefix? key (c :: cs) = some rest' :=
            stripPrefix?_eq_some_iff.mpr whole
          rw [begins] at absent
          cases absent
        | cons d before' =>
          exact Nat.succ_le_succ (ih further before' rest' (List.cons.inj whole).2)
  refine ⟨fun found => ⟨eq_append_of_split? found, first found⟩, fun ⟨whole, least⟩ => ?_⟩
  have occurs : (split? key s).isSome = true :=
    occursIn_iff.mpr ⟨before, rest, by rw [whole, List.append_assoc]⟩
  obtain ⟨⟨before', rest'⟩, found⟩ := Option.isSome_iff_exists.mp occurs
  have whole' := eq_append_of_split? found
  have length : before'.length = before.length :=
    Nat.le_antisymm (first found before rest whole) (least before' rest' whole')
  obtain ⟨rfl, same⟩ := List.append_inj (whole'.symm.trans whole) length
  rw [found, List.append_cancel_left same]

theorem split?_eq_none_iff {key s : List Char} : split? key s = none ↔ ¬key <:+: s := by
  rw [← occursIn_iff, occursIn, Bool.not_eq_true, Option.isSome_eq_false_iff,
    Option.isNone_iff_eq_none]

/-- A text is cut at the first of a character. -/
theorem split?_singleton_iff {c : Char} {s before rest : List Char} :
    split? [c] s = some (before, rest) ↔ c ∉ before ∧ s = before ++ c :: rest := by
  rw [split?_eq_some_iff, List.singleton_append]
  constructor
  · rintro ⟨whole, first⟩
    refine ⟨fun inside => ?_, whole⟩
    obtain ⟨front, back, rfl⟩ := List.append_of_mem inside
    have shorter := first front (back ++ c :: rest) (by rw [whole]; simp)
    simp only [List.length_append, List.length_cons] at shorter
    omega
  · rintro ⟨absent, whole⟩
    refine ⟨whole, fun before' rest' whole' => Nat.le_of_not_lt fun shorter => absent ?_⟩
    have begins : before' <+: before :=
      List.prefix_of_prefix_length_le ⟨_, whole'.symm⟩ ⟨_, whole.symm⟩
        (Nat.le_of_lt shorter)
    obtain ⟨more, rfl⟩ := begins
    cases more with
    | nil => simp at shorter
    | cons d more =>
      rw [whole, List.append_assoc, List.singleton_append, List.append_cancel_left_eq,
        List.cons_append] at whole'
      rw [(List.cons.inj whole').1]
      exact List.mem_append_right _ List.mem_cons_self

theorem split?_singleton_eq_none_iff {c : Char} {s : List Char} :
    split? [c] s = none ↔ c ∉ s := by
  rw [split?_eq_none_iff]
  refine ⟨fun absent inside => absent ?_, fun absent stretch => absent ?_⟩
  · obtain ⟨front, back, rfl⟩ := List.append_of_mem inside
    exact ⟨front, back, by simp⟩
  · exact stretch.subset List.mem_cons_self

theorem cutAt_of_split? {c : Char} {s before rest : List Char}
    (found : split? [c] s = some (before, rest)) : cutAt (· = c) s = before := by
  obtain ⟨absent, rfl⟩ := split?_singleton_iff.mp found
  rw [cutAt, List.takeWhile_append_of_pos]
  · simp
  · intro d inside
    simpa using fun same : d = c => absent (same ▸ inside)

theorem cutAt_of_not_mem {c : Char} {s : List Char} (absent : c ∉ s) : cutAt (· = c) s = s := by
  induction s with
  | nil => rfl
  | cons d s ih =>
    obtain ⟨other, further⟩ : c ≠ d ∧ c ∉ s := by simpa using absent
    rw [cutAt, List.takeWhile_cons_of_pos (by simpa using Ne.symm other)]
    exact congrArg (d :: ·) (ih further)

/-- A key occurs in two texts with a character between them if it occurs in one of the two, or lies
across the character. -/
theorem infix_separator_iff {key s t : List Char} {c : Char} :
    key <:+: s ++ c :: t ↔
      key <:+: s ∨ key <:+: t ∨
        ∃ before after, key = before ++ c :: after ∧ before <:+ s ∧ after <+: t := by
  rw [List.infix_append_iff, List.infix_cons_iff]
  constructor
  · rintro (left | (begins | right) | ⟨before, rest, rfl, ends, begins⟩)
    · exact .inl left
    · rcases List.prefix_cons_iff.mp begins with rfl | ⟨after, rfl, further⟩
      · exact .inl List.nil_infix
      · exact .inr (.inr ⟨[], after, rfl, List.nil_suffix, further⟩)
    · exact .inr (.inl right)
    · rcases List.prefix_cons_iff.mp begins with rfl | ⟨after, rfl, further⟩
      · rw [List.append_nil]
        exact .inl ends.isInfix
      · exact .inr (.inr ⟨before, after, rfl, ends, further⟩)
  · rintro (left | right | ⟨before, after, rfl, ends, begins⟩)
    · exact .inl left
    · exact .inr (.inl (.inr right))
    · have begins' : c :: after <+: c :: t := List.cons_prefix_cons.mpr ⟨rfl, begins⟩
      exact .inr (.inr ⟨before, c :: after, rfl, ends, begins'⟩)

/-- A character that a key does not have makes no difference behind a text. -/
theorem split?_append_of_not_mem {key : List Char} {c : Char} (other : c ∉ key) (s : List Char) :
    split? key (s ++ [c]) = (split? key s).map fun (before, rest) => (before, rest ++ [c]) := by
  cases found : split? key s with
  | some parts => rw [split?_append [c] found, Option.map_some]
  | none =>
    rw [Option.map_none, split?_eq_none_iff, infix_separator_iff]
    rw [split?_eq_none_iff] at found
    rintro (left | empty | ⟨before, after, rfl, -⟩)
    · exact found left
    · exact found (List.infix_nil.mp empty ▸ List.nil_infix)
    · exact other (List.mem_append_right _ List.mem_cons_self)

theorem contains_iff {key s : String} : contains key s = true ↔ key.toList <:+: s.toList :=
  occursIn_iff

theorem startsWith_iff {key s : String} : startsWith key s = true ↔ key.toList <+: s.toList :=
  stripPrefix?_isSome_iff

theorem dropKey?_eq_some_iff {key s rest : String} :
    dropKey? key s = some rest ↔ s = key ++ rest := by
  rw [dropKey?, Option.map_eq_some_iff, ← String.toList_inj, String.toList_append]
  simp only [stripPrefix?_eq_some_iff]
  constructor
  · rintro ⟨_, same, rfl⟩
    rw [same, String.toList_ofList]
  · intro same
    exact ⟨rest.toList, same, String.ofList_toList⟩

/-! ### Runs of characters -/

section Run

variable {p : Char → Bool} {name rest : List Char} (run : ∀ c ∈ name, p c = true)
  (ends : ∀ c, rest.head? = some c → p c = false)
include run ends

/-- A run of characters ends where the next character is none of them. -/
theorem takeWhile_run : (name ++ rest).takeWhile p = name := by
  have stop : rest.takeWhile p = [] := by
    cases rest with
    | nil => rfl
    | cons c rest => simp [ends c rfl]
  rw [List.takeWhile_append_of_pos run, stop, List.append_nil]

theorem dropWhile_run : (name ++ rest).dropWhile p = rest := by
  rw [List.dropWhile_append_of_pos run]
  cases rest with
  | nil => rfl
  | cons c rest => rw [List.dropWhile_cons_of_neg (by simp [ends c rfl])]

end Run

/-! ### Blanks -/

theorem dropWhile_isBlank_eq_nil {s : List Char} (blank : ∀ c ∈ s, isBlank c = true) :
    s.dropWhile isBlank = [] := by
  simpa using @List.dropWhile_append_of_pos _ isBlank s [] blank

theorem trimEnd_append_blank {s after : List Char} (blank : ∀ c ∈ after, isBlank c = true) :
    trimEnd (s ++ after) = trimEnd s := by
  rw [trimEnd, List.reverse_append,
    List.dropWhile_append_of_pos fun c among => blank c (List.mem_reverse.1 among), trimEnd]

/-- Blanks around a text are taken away with those it has itself. -/
theorem trim_between_blanks {before s after : List Char} (blanks : ∀ c ∈ before, isBlank c = true)
    (blanks' : ∀ c ∈ after, isBlank c = true) : trim (before ++ s ++ after) = trim s := by
  rw [trim, trim, trimStart, trimStart, List.append_assoc, List.dropWhile_append_of_pos blanks,
    List.dropWhile_append]
  -- If the text is blank itself, the blanks behind it go with those in front.
  split
  · rename_i empty
    rw [dropWhile_isBlank_eq_nil blanks', List.isEmpty_iff.1 empty]
  · exact trimEnd_append_blank blanks'

theorem trim_subset (s : List Char) : trim s ⊆ s := by
  intro c among
  rw [trim, trimEnd, List.mem_reverse] at among
  exact List.dropWhile_subset _ (List.mem_reverse.1 (List.dropWhile_subset _ among))

theorem trim_of_not_blank {s : List Char} (solid : ∀ c ∈ s, isBlank c = false) : trim s = s := by
  have kept : ∀ t : List Char, (∀ c ∈ t, isBlank c = false) → t.dropWhile isBlank = t := by
    intro t solid'
    cases t with
    | nil => rfl
    | cons c t => simp [solid' c List.mem_cons_self]
  rw [trim, trimStart, kept s solid, trimEnd,
    kept _ fun c among => solid c (List.mem_reverse.1 among), List.reverse_reverse]

/-! ### Numbers -/

theorem isBlank_of_isDigit {c : Char} (digit : c.isDigit = true) : isBlank c = false := by
  simp only [Char.isDigit, Bool.and_eq_true, decide_eq_true_eq, UInt32.le_iff_toNat_le] at digit
  have range : 48 ≤ c.toNat ∧ c.toNat ≤ 57 := digit
  simp only [isBlank, Bool.or_eq_false_iff, Bool.and_eq_false_iff, decide_eq_false_iff_not,
    beq_eq_false_iff_ne]
  omega

theorem digitsValue?_eq_some_iff {s : List Char} {n : Nat} :
    digitsValue? s = some n ↔
      s ≠ [] ∧ (∀ c ∈ s, c.isDigit = true) ∧ Nat.ofDigitChars 10 s 0 = n := by
  rw [digitsValue?, Nat.ofDigitChars_eq_foldl]
  by_cases digits : s ≠ [] ∧ ∀ c ∈ s, c.isDigit = true
  · rw [if_neg (by simpa using digits), Option.some_inj]
    exact ⟨fun same => ⟨digits.1, digits.2, same⟩, fun all => all.2.2⟩
  · rw [if_pos (by simpa [← List.all_eq_true, Classical.or_iff_not_imp_left] using digits)]
    simp only [reduceCtorEq, false_iff]
    exact fun all => digits ⟨all.1, all.2.1⟩

theorem isDigit_toDigits {n : Nat} : ∀ c ∈ Nat.toDigits 10 n, c.isDigit = true := fun _ inside =>
  Nat.isDigit_of_mem_toDigits (by decide) (by decide) inside

/-- A number that has been written in decimal digits is read again. -/
theorem unsigned?_trim_ofNat {n bound : Nat} (small : n < bound) :
    unsigned? bound (trim (ofNat n).toList) = some n := by
  have noSign : stripPrefix? ['+'] (Nat.toDigits 10 n) = none := by
    refine Option.eq_none_iff_forall_ne_some.2 fun rest begins => ?_
    have plus := @isDigit_toDigits n '+'
      (by rw [stripPrefix?_eq_some_iff.1 begins]; exact List.mem_cons_self)
    exact absurd plus (by decide)
  have value : digitsValue? (Nat.toDigits 10 n) = some n :=
    digitsValue?_eq_some_iff.2
      ⟨Nat.toDigits_ne_nil, isDigit_toDigits, Nat.ofDigitChars_ten_toDigits⟩
  rw [ofNat, String.toList_ofList, decimal,
    trim_of_not_blank fun c among => isBlank_of_isDigit (isDigit_toDigits c among), unsigned?,
    noSign]
  simp [value, small]

end VerifierTrials.Text
