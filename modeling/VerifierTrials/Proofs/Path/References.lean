import Mathlib.Data.List.Basic
import Mathlib.Data.List.TakeWhile
import VerifierTrials.Path.Expand
import VerifierTrials.Proofs.Text.Basic

/-!
# The references in a text, and what they are worth

Expansion is a recursion that passes over the characters of a reference once its value is put in.
What it does is said without that recursion: a text is cut into **pieces** (`Path.Piece`), each a
reference or a character on its own, and each piece is replaced by what it is worth
(`Path.Piece.value`). Which pieces these are is a condition on each of them and what follows it
(`Path.Piece.Fits`): a name is the longest run of word characters, what stands in braces ends at the
next closing brace, and a dollar sign is a character on its own only where no reference begins.
There is one such reading of every text (`Path.exists_isReading`, `Path.IsReading.unique`).

A reference in braces takes its name without the braces that stand at the front of it. So expansion
replaces references by their own names exactly as long as no name in braces begins with a brace
(`Path.expandVariables_eq_flatMap`).
-/

namespace VerifierTrials.Path

open VerifierTrials.Text

/-! ### Pieces of a text -/

/-- A piece of a text as expansion reads it. -/
inductive Piece where
  /-- A character that belongs to no reference. -/
  | plain (c : Char)
  /-- A dollar sign with a name behind it. -/
  | named (name : List Char)
  /-- A dollar sign with a name in braces behind it. -/
  | braced (inner : List Char)
  deriving DecidableEq

namespace Piece

/-- A piece as it is written. -/
def text : Piece → List Char
  | plain c => [c]
  | named name => '$' :: name
  | braced inner => '$' :: '\x7b' :: inner ++ ['\x7d']

/-- The name that a piece refers to, given how names in braces are read. -/
def name? (nameIn : List Char → String) : Piece → Option String
  | plain _ => none
  | named name => some (String.ofList name)
  | braced inner => some (nameIn inner)

/-- **What a piece is worth**: the value of the variable that it refers to, or else itself. -/
def value (env : Environment) (nameIn : List Char → String) (piece : Piece) : List Char :=
  match (piece.name? nameIn).bind env.get? with
  | some value => value.toList
  | none => piece.text

end Piece

/-- A text that makes a reference of a dollar sign before it. -/
def BeginsReference (rest : List Char) : Prop :=
  (∃ c, rest.head? = some c ∧ isWord c = true) ∨ ∃ more, rest = '\x7b' :: more ∧ '\x7d' ∈ more

/-- **A piece fits what follows it.** -/
def Piece.Fits (rest : List Char) : Piece → Prop
  | plain c => c = '$' → ¬BeginsReference rest
  | named name =>
    name ≠ [] ∧ (∀ c ∈ name, isWord c = true) ∧ ∀ c, rest.head? = some c → isWord c = false
  | braced inner => '\x7d' ∉ inner

/-- Pieces that fit one another. -/
def Fit : List Piece → Prop
  | [] => True
  | piece :: pieces => piece.Fits (pieces.flatMap Piece.text) ∧ Fit pieces

/-- **The pieces of a text**, left to right. -/
structure IsReading (s : String) (pieces : List Piece) : Prop where
  whole : pieces.flatMap Piece.text = s.toList
  fit : Fit pieces

variable {env : Environment} {rest s inner name : List Char} {piece : Piece} {pieces : List Piece}

/-! ### Runs of characters -/

theorem isWord_of_mem_takeWhile {c : Char} (among : c ∈ s.takeWhile isWord) : isWord c = true :=
  List.mem_takeWhile_imp among

theorem isWord_head?_dropWhile {c : Char} (first : (s.dropWhile isWord).head? = some c) :
    isWord c = false := by
  simpa [first] using List.head?_dropWhile_not isWord s

theorem takeWhile_braced (next : '\x7d' ∉ inner) :
    (inner ++ '\x7d' :: rest).takeWhile (· != '\x7d') = inner :=
  takeWhile_run (fun c among => by simpa using fun same : c = '\x7d' => next (same ▸ among))
    (fun c first => by simpa using (Option.some.inj first).symm)

/-- A text with a closing brace in it is cut at the first one. -/
theorem exists_of_brace_mem (brace : '\x7d' ∈ s) :
    ∃ inner rest, '\x7d' ∉ inner ∧ s = inner ++ '\x7d' :: rest := by
  obtain ⟨inner, rest, same, next⟩ := List.eq_append_cons_of_mem brace
  exact ⟨inner, rest, next, same⟩

theorem isWord_brace : isWord '\x7b' = false := by decide

/-- No run of word characters begins where no word character is. -/
theorem takeWhile_isWord_eq_nil_iff :
    s.takeWhile isWord = [] ↔ ∀ c, s.head? = some c → isWord c = false := by
  cases s with
  | nil => simp
  | cons d s => simp

theorem takeWhile_of_not (none_ : ¬BeginsReference rest) : rest.takeWhile isWord = [] :=
  takeWhile_isWord_eq_nil_iff.mpr fun c first =>
    Bool.eq_false_iff.mpr fun word => none_ (.inl ⟨c, first, word⟩)

/-! ### One reference -/

theorem reference?_named (fits : (Piece.named name).Fits rest) :
    reference? (name ++ rest) = some (String.ofList name, name.length) := by
  obtain ⟨some_, run, ends⟩ := fits
  have word : (name ++ rest).takeWhile isWord = name := takeWhile_run run ends
  unfold reference?
  simp [word, some_]

theorem reference?_braced (next : '\x7d' ∉ inner) :
    reference? ('\x7b' :: (inner ++ '\x7d' :: rest)) =
      some (bracedName inner, inner.length + 2) := by
  rw [reference?, List.takeWhile_cons_of_neg (by simp [isWord_brace])]
  simp [takeWhile_braced next]

theorem reference?_of_not (none_ : ¬BeginsReference rest) : reference? rest = none := by
  unfold reference?
  simp only [takeWhile_of_not none_, List.isEmpty_nil, Bool.not_true, Bool.false_eq_true, if_false]
  split
  next more =>
    -- without a closing brace the name in braces would go on to the end of the text
    have open_ : '\x7d' ∉ more := fun closed => none_ (.inr ⟨more, rfl, closed⟩)
    have all : more.takeWhile (· != '\x7d') = more :=
      List.takeWhile_eq_self_iff.mpr fun c among => by
        simpa using fun same : c = '\x7d' => open_ (same ▸ among)
    rw [all, if_neg (Nat.lt_irrefl _)]
  next => rfl

/-- The characters of a reference are passed over. -/
theorem expandFrom_eq_drop (n : Nat) (s : List Char) :
    expandFrom env n s = expandFrom env 0 (s.drop n) := by
  induction s generalizing n with
  | nil => cases n <;> simp [expandFrom]
  | cons c s ih =>
    cases n with
    | zero => rfl
    | succ n => exact ih n

theorem expandFrom_reference {reference : List Char} {name : String}
    (found : reference? (reference ++ rest) = some (name, reference.length)) :
    expandFrom env 0 ('$' :: (reference ++ rest)) =
      (match env.get? name with
        | some value => value.toList
        | none => '$' :: reference) ++ expandFrom env 0 rest := by
  rw [expandFrom, if_pos rfl, found]
  dsimp only
  rw [expandFrom_eq_drop, List.drop_left, List.take_left]
  cases env.get? name <;> rfl

/-- **A piece is replaced by what it is worth**, and expansion goes on behind it. -/
theorem expandFrom_piece (fits : piece.Fits rest) :
    expandFrom env 0 (piece.text ++ rest) =
      piece.value env bracedName ++ expandFrom env 0 rest := by
  cases piece with
  | plain c =>
    change expandFrom env 0 (c :: rest) = c :: expandFrom env 0 rest
    rw [expandFrom]
    split
    next dollar => rw [reference?_of_not (fits dollar)]
    next => rfl
  | named name => exact expandFrom_reference (reference?_named fits)
  | braced inner =>
    have found : reference? (('\x7b' :: inner ++ ['\x7d']) ++ rest) =
        some (bracedName inner, ('\x7b' :: inner ++ ['\x7d']).length) := by
      simpa [List.append_assoc] using reference?_braced fits
    exact expandFrom_reference found

theorem expandFrom_pieces (fit : Fit pieces) :
    expandFrom env 0 (pieces.flatMap Piece.text) =
      pieces.flatMap (Piece.value env bracedName) := by
  induction pieces with
  | nil => rfl
  | cons piece pieces ih =>
    rw [List.flatMap_cons, expandFrom_piece fit.1, ih fit.2, List.flatMap_cons]

/-! ### There is one reading -/

/-- The piece that a text begins with. -/
def pieceAt (c : Char) (rest : List Char) : Piece :=
  if c ≠ '$' then .plain c
  else if rest.takeWhile isWord ≠ [] then .named (rest.takeWhile isWord)
  else if rest.head? = some '\x7b' ∧ '\x7d' ∈ rest then
    .braced (rest.tail.takeWhile (· != '\x7d'))
  else .plain c

/-- A piece that fits is the one that the text begins with. -/
theorem pieceAt_eq {c : Char} {s : List Char} (fits : piece.Fits rest)
    (whole : piece.text ++ rest = c :: s) : pieceAt c s = piece := by
  cases piece with
  | plain d =>
    obtain ⟨rfl, rfl⟩ : d = c ∧ rest = s := by simpa [Piece.text] using whole
    by_cases dollar : d = '$'
    · have word := takeWhile_of_not (fits dollar)
      have braces : ¬(rest.head? = some '\x7b' ∧ '\x7d' ∈ rest) := by
        rintro ⟨first, closed⟩
        obtain ⟨more, rfl⟩ := List.head?_eq_some_iff.mp first
        exact fits dollar (.inr ⟨more, rfl, by simpa using closed⟩)
      rw [pieceAt, if_neg (not_not.mpr dollar), if_neg (not_not.mpr word), if_neg braces]
    · rw [pieceAt, if_pos dollar]
  | named name =>
    obtain ⟨rfl, rfl⟩ : '$' = c ∧ name ++ rest = s := by simpa [Piece.text] using whole
    obtain ⟨some_, run, ends⟩ := fits
    have word : (name ++ rest).takeWhile isWord = name := takeWhile_run run ends
    rw [pieceAt, if_neg (not_not.mpr rfl), word, if_pos some_]
  | braced inner =>
    obtain ⟨rfl, rfl⟩ : '$' = c ∧ '\x7b' :: (inner ++ '\x7d' :: rest) = s := by
      simpa [Piece.text] using whole
    have word : ('\x7b' :: (inner ++ '\x7d' :: rest)).takeWhile isWord = [] :=
      List.takeWhile_cons_of_neg (by simp [isWord_brace])
    rw [pieceAt, if_neg (not_not.mpr rfl), if_neg (not_not.mpr word), if_pos (by simp),
      List.tail_cons, takeWhile_braced fits]

theorem exists_pieceAt (c : Char) (s : List Char) :
    ∃ rest, (pieceAt c s).text ++ rest = c :: s ∧ (pieceAt c s).Fits rest := by
  rw [pieceAt]
  split
  next other => exact ⟨s, rfl, fun dollar => absurd dollar other⟩
  next dollar =>
    obtain rfl : c = '$' := not_not.mp dollar
    split
    next word =>
      refine ⟨s.dropWhile isWord, ?_, word, fun _ => isWord_of_mem_takeWhile,
        fun _ => isWord_head?_dropWhile⟩
      exact congrArg ('$' :: ·) List.takeWhile_append_dropWhile
    next noWord =>
      split
      next braces =>
        obtain ⟨more, rfl⟩ := List.head?_eq_some_iff.mp braces.1
        obtain ⟨inner, rest, next, rfl⟩ := exists_of_brace_mem (s := more) (by simpa using braces.2)
        rw [List.tail_cons, takeWhile_braced next]
        exact ⟨rest, by simp [Piece.text], next⟩
      next noBraces =>
        refine ⟨s, rfl, fun _ => ?_⟩
        rintro (⟨d, first, word⟩ | ⟨more, rfl, closed⟩)
        · rw [takeWhile_isWord_eq_nil_iff.mp (not_not.mp noWord) d first] at word
          cases word
        · exact noBraces ⟨rfl, List.mem_cons_of_mem _ closed⟩

theorem text_ne_nil (piece : Piece) : piece.text ≠ [] := by
  cases piece <;> simp [Piece.text]

/-- **Every text has a reading.** -/
theorem exists_isReading (s : String) : ∃ pieces, IsReading s pieces := by
  suffices all : ∀ n (cs : List Char), cs.length ≤ n →
      ∃ pieces, pieces.flatMap Piece.text = cs ∧ Fit pieces by
    obtain ⟨pieces, whole, fit⟩ := all _ s.toList (Nat.le_refl _)
    exact ⟨pieces, whole, fit⟩
  -- by induction on the length, as a reference takes several characters at once
  intro n
  induction n with
  | zero =>
    intro cs short
    exact ⟨[], (List.length_eq_zero_iff.mp (Nat.le_zero.mp short)).symm, trivial⟩
  | succ n ih =>
    intro cs short
    cases cs with
    | nil => exact ⟨[], rfl, trivial⟩
    | cons c cs =>
      obtain ⟨rest, whole, fits⟩ := exists_pieceAt c cs
      have length := congrArg List.length whole
      have some_ := List.length_pos_iff.mpr (text_ne_nil (pieceAt c cs))
      rw [List.length_append] at length
      obtain ⟨pieces, further, fit⟩ := ih rest (by omega)
      exact ⟨pieceAt c cs :: pieces, by rw [List.flatMap_cons, further, whole],
        by rwa [further], fit⟩

theorem eq_of_fit {other : List Piece} (fit : Fit pieces) (fit' : Fit other)
    (same : pieces.flatMap Piece.text = other.flatMap Piece.text) : pieces = other := by
  induction pieces generalizing other with
  | nil =>
    cases other with
    | nil => rfl
    | cons piece other =>
      exact absurd (List.append_eq_nil_iff.mp same.symm).1 (text_ne_nil piece)
  | cons piece pieces ih =>
    cases other with
    | nil => exact absurd (List.append_eq_nil_iff.mp same).1 (text_ne_nil piece)
    | cons piece' other =>
      rw [List.flatMap_cons, List.flatMap_cons] at same
      obtain ⟨c, cs, whole⟩ := List.exists_cons_of_ne_nil
        (List.append_ne_nil_of_left_ne_nil (text_ne_nil piece) (pieces.flatMap Piece.text))
      obtain rfl : piece = piece' :=
        (pieceAt_eq fit.1 whole).symm.trans (pieceAt_eq fit'.1 (same.symm.trans whole))
      rw [ih fit.2 fit'.2 (List.append_cancel_left same)]

/-- **A text has no second reading.** -/
theorem IsReading.unique {s : String} {other : List Piece} (reading : IsReading s pieces)
    (reading' : IsReading s other) : pieces = other :=
  eq_of_fit reading.fit reading'.fit (reading.whole.trans reading'.whole.symm)

/-! ### Expansion -/

/-- A piece is worth the same however names in braces are read, if it has no brace at the front of
such a name. -/
theorem Piece.value_ofList (noBrace : ∀ inner, piece = .braced inner → inner.head? ≠ some '\x7b') :
    piece.value env bracedName = piece.value env String.ofList := by
  cases piece with
  | plain c => rfl
  | named name => rfl
  | braced inner =>
    have same : bracedName inner = String.ofList inner := by
      rw [bracedName]
      cases inner with
      | nil => rfl
      | cons c inner =>
        rw [List.dropWhile_cons_of_neg]
        simpa using noBrace _ rfl
    rw [value, value, name?, name?, same]

/-- **Expansion is one scan from left to right** over the one reading of a text: every piece is
replaced by what it is worth, a name in braces being read without the braces at the front of it.
Where there are none, each reference is replaced by the value of its own name. -/
theorem expandVariables_eq_flatMap (env : Environment) (s : String) :
    ∃ pieces, IsReading s pieces ∧ (∀ other, IsReading s other → other = pieces) ∧
      expandVariables env s = String.ofList (pieces.flatMap (Piece.value env bracedName)) ∧
      ((∀ inner, Piece.braced inner ∈ pieces → inner.head? ≠ some '\x7b') →
        expandVariables env s =
          String.ofList (pieces.flatMap (Piece.value env String.ofList))) := by
  obtain ⟨pieces, reading⟩ := exists_isReading s
  have scanned : expandVariables env s =
      String.ofList (pieces.flatMap (Piece.value env bracedName)) := by
    rw [expandVariables, ← reading.whole, expandFrom_pieces reading.fit]
  refine ⟨pieces, reading, fun other reading' => reading'.unique reading, scanned,
    fun noBrace => ?_⟩
  have alike : ∀ piece ∈ pieces, piece.value env bracedName = piece.value env String.ofList :=
    fun piece among => Piece.value_ofList fun inner same => noBrace inner (same ▸ among)
  rw [scanned, List.flatMap_congr alike]

/-- A value is not read again, and a reference stays as it is written if its variable is not set. -/
example : expandVariables ⟨[("X", "$Y"), ("Y", "v")]⟩ "$X$\x7bY\x7d$Z" = "$Yv$Z" := by decide

/-- A further brace at the front of a name in braces is passed over, and so a variable is put in
that the text does not name. -/
theorem not_forall_ownName : ¬∀ (env : Environment) (s : String) (pieces : List Piece),
    IsReading s pieces →
      expandVariables env s = String.ofList (pieces.flatMap (Piece.value env String.ofList)) := by
  intro all
  have reading : IsReading "$\x7b\x7bX\x7d" [.braced ['\x7b', 'X']] :=
    ⟨by decide, by simp [Piece.Fits], trivial⟩
  have own := all ⟨[("X", "v")]⟩ _ _ reading
  revert own
  decide

end VerifierTrials.Path
