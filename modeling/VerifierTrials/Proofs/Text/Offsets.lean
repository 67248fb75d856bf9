import Mathlib.Data.List.Infix
import VerifierTrials.Proofs.Text.Basic
import VerifierTrials.Proofs.Text.Encoding

/-!
# Searching and cutting by bytes

A text may be searched by its bytes (`Utf8.offset?`) and cut at an offset of bytes
(`Utf8.cutBytes?`), which is possible only where a character begins. The two go together: the
bytes of a key are found in the bytes of a text where the key is found among its characters, and so
the offset of a key is always one at which the text can be cut (`Utf8.offset?_bytes`,
`Utf8.cutBytes?_append`).

The reason is that the first byte of a character is none that continues a character
(`Utf8.exists_encodeChar`), and that no character begins with the bytes of another one
(`Utf8.encodeChar_append_inj`). So a key with a character in it is not found inside of a character,
and where its bytes begin, the key itself does.
-/

namespace VerifierTrials.Utf8

open VerifierTrials.Text

/-- The bytes of characters, one after the other. -/
def bytes (s : List Char) : Bytes := s.flatMap String.utf8EncodeChar

/-- **The offset at which bytes are first found among others.** -/
def offset? (key among : Bytes) : Option Nat := among.tails.findIdx? fun rest => key.isPrefixOf rest

/-- **A text cut behind so many bytes**, if a character begins there or the text ends. -/
def cutBytes? : Nat → List Char → Option (List Char × List Char)
  | 0, s => some ([], s)
  | _ + 1, [] => none
  | n + 1, c :: s =>
    if c.utf8Size ≤ n + 1 then
      (cutBytes? (n + 1 - c.utf8Size) s).map fun (before, rest) => (c :: before, rest)
    else
      none

theorem bytes_cons (c : Char) (s : List Char) :
    bytes (c :: s) = String.utf8EncodeChar c ++ bytes s := List.flatMap_cons

theorem bytes_append (s t : List Char) : bytes (s ++ t) = bytes s ++ bytes t :=
  List.flatMap_append

/-! ### The bytes of a character -/

/-- **A character is one byte that begins it and bytes that continue it.** -/
theorem exists_encodeChar (c : Char) :
    ∃ lead more, String.utf8EncodeChar c = lead :: more ∧ isContinuation lead = false ∧
      ∀ b ∈ more, isContinuation b = true := by
  have bound : c.val.toNat < 0x110000 := by
    have valid : c.val.toNat.isValidChar := c.valid
    rw [Nat.isValidChar] at valid
    omega
  unfold String.utf8EncodeChar
  dsimp only
  split_ifs <;> refine ⟨_, _, rfl, ?_, ?_⟩ <;>
    simp (disch := omega) only [isContinuation, List.forall_mem_cons, List.not_mem_nil,
      IsEmpty.forall_iff, implies_true, and_true, Bool.and_eq_true, Bool.and_eq_false_iff,
      decide_eq_true_eq, decide_eq_false_iff_not, UInt8.le_iff_toNat_le, UInt8.toNat_ofNat',
      UInt8.toNat_ofNat, Nat.mod_eq_of_lt] <;>
    omega

/-- No character begins with the bytes of another one. -/
theorem encodeChar_append_inj {c d : Char} {s t : Bytes}
    (same : String.utf8EncodeChar c ++ s = String.utf8EncodeChar d ++ t) : c = d ∧ s = t := by
  by_cases less : c < d
  · exact absurd (same ▸ encodeChar_lt less s t) (List.lt_irrefl _)
  · by_cases more : d < c
    · exact absurd (same ▸ encodeChar_lt more t s) (List.lt_irrefl _)
    · obtain rfl : c = d := Char.le_antisymm (Char.not_lt.mp more) (Char.not_lt.mp less)
      exact ⟨rfl, List.append_cancel_left same⟩

/-- **A text begins with the bytes of a key if it begins with the key.** -/
theorem bytes_prefix_iff {key s : List Char} : bytes key <+: bytes s ↔ key <+: s := by
  constructor
  · intro begins
    induction key generalizing s with
    | nil => exact List.nil_prefix
    | cons c key ih =>
      obtain ⟨rest, same⟩ := begins
      cases s with
      | nil =>
        have none_ : String.utf8EncodeChar c = [] := by simp_all [bytes]
        exact absurd none_ (encodeChar_ne_nil c)
      | cons d s =>
        rw [bytes_cons, bytes_cons, List.append_assoc] at same
        obtain ⟨rfl, further⟩ := encodeChar_append_inj same
        exact List.cons_prefix_cons.mpr ⟨rfl, ih ⟨rest, further⟩⟩
  · rintro ⟨rest, rfl⟩
    exact ⟨bytes rest, (bytes_append key rest).symm⟩

/-! ### Offsets -/

theorem offset?_cons (key among : Bytes) (b : UInt8) :
    offset? key (b :: among) =
      if key <+: b :: among then some 0 else (offset? key among).map (· + 1) := by
  rw [offset?, List.tails_cons, List.findIdx?_cons, offset?]
  simp only [List.isPrefixOf_iff_prefix]

theorem offset?_of_begins {key among : Bytes} (begins : key <+: among) :
    offset? key among = some 0 := by
  cases among with
  | nil =>
    obtain rfl := List.prefix_nil.mp begins
    rfl
  | cons b among => rw [offset?_cons, if_pos begins]

/-- Bytes that begin with no continuation are not found at one. -/
theorem offset?_continuations {lead : UInt8} (begins : isContinuation lead = false) (key : Bytes)
    {more : Bytes} (continues : ∀ b ∈ more, isContinuation b = true) (rest : Bytes) :
    offset? (lead :: key) (more ++ rest) =
      (offset? (lead :: key) rest).map (· + more.length) := by
  induction more with
  | nil => simp
  | cons b more ih =>
    obtain ⟨first, further⟩ := List.forall_mem_cons.mp continues
    have other : ¬lead :: key <+: b :: (more ++ rest) := fun begins' => by
      obtain ⟨rfl, -⟩ := List.cons_prefix_cons.mp begins'
      exact absurd first (by simp [begins])
    rw [List.cons_append, offset?_cons, if_neg other, ih further, Option.map_map]
    rfl

/-- **A key is found by its bytes where it is found**: behind the bytes of what stands before it. -/
theorem offset?_bytes (key s : List Char) :
    offset? (bytes key) (bytes s) = (split? key s).map fun parts => (bytes parts.1).length := by
  induction s with
  | nil =>
    cases key with
    | nil => rfl
    | cons c key =>
      obtain ⟨lead, more, same, -⟩ := exists_encodeChar c
      rw [bytes_cons, same]
      rfl
  | cons d s ih =>
    rw [split?]
    split
    next rest found =>
      rw [offset?_of_begins (bytes_prefix_iff.mpr ⟨rest, (stripPrefix?_eq_some_iff.mp found).symm⟩)]
      rfl
    next absent =>
      have other : ¬bytes key <+: bytes (d :: s) := by
        rw [bytes_prefix_iff, ← stripPrefix?_isSome_iff, absent]
        exact Bool.false_ne_true
      cases key with
      | nil => cases absent
      | cons c key =>
        -- behind the first byte of a character nothing begins before the next character
        obtain ⟨lead, more, same, begins, -⟩ := exists_encodeChar c
        obtain ⟨lead', more', same', -, continues⟩ := exists_encodeChar d
        have whole : bytes (d :: s) = lead' :: (more' ++ bytes s) := by
          rw [bytes_cons, same', List.cons_append]
        have key_eq : bytes (c :: key) = lead :: (more ++ bytes key) := by
          rw [bytes_cons, same, List.cons_append]
        rw [whole] at other ⊢
        rw [offset?_cons, if_neg other, key_eq, offset?_continuations begins _ continues, ← key_eq,
          ih, Option.map_map, Option.map_map, Option.map_map]
        refine congrArg (Option.map · _) (funext fun parts => ?_)
        simp only [Function.comp_apply, bytes_cons, same', List.length_append, List.length_cons]
        omega

/-! ### Cuts -/

/-- **A text can be cut between its characters.** -/
theorem cutBytes?_append (before rest : List Char) :
    cutBytes? (bytes before).length (before ++ rest) = some (before, rest) := by
  induction before with
  | nil =>
    change cutBytes? 0 rest = some ([], rest)
    rw [cutBytes?]
  | cons c before ih =>
    have size : (bytes (c :: before)).length = c.utf8Size + (bytes before).length := by
      rw [bytes_cons, List.length_append, String.length_utf8EncodeChar]
    obtain ⟨n, positive⟩ : ∃ n, c.utf8Size + (bytes before).length = n + 1 :=
      ⟨_, (Nat.sub_add_cancel (Nat.le_add_right_of_le c.utf8Size_pos)).symm⟩
    have fits : c.utf8Size ≤ n + 1 := by omega
    have left : n + 1 - c.utf8Size = (bytes before).length := by omega
    rw [size, positive, List.cons_append, cutBytes?, if_pos fits, left, ih]
    rfl

/-- A text can be cut at the offset of a key, and behind the key. -/
theorem cutBytes?_of_split? {key s before rest : List Char}
    (found : split? key s = some (before, rest)) :
    offset? (bytes key) (bytes s) = some (bytes before).length ∧
      cutBytes? (bytes before).length s = some (before, key ++ rest) ∧
      cutBytes? ((bytes before).length + (bytes key).length) s = some (before ++ key, rest) := by
  have whole := eq_append_of_split? found
  refine ⟨by rw [offset?_bytes, found]; rfl, ?_, ?_⟩
  · rw [whole, cutBytes?_append]
  · rw [whole, ← List.length_append, ← bytes_append, ← List.append_assoc, cutBytes?_append]

/-- What stands behind the first of a mark, found by bytes, or all of a text without it. There is
nothing if the text would be cut inside of a character. -/
def behindMark? (mark : Char) (s : List Char) : Option (List Char) :=
  match offset? (bytes [mark]) (bytes s) with
  | some offset => (cutBytes? (offset + (bytes [mark]).length) s).map Prod.snd
  | none => some s

/-- What stands before the first of a mark, found by bytes, or all of a text without it. -/
def beforeMark? (mark : Char) (s : List Char) : Option (List Char) :=
  match offset? (bytes [mark]) (bytes s) with
  | some offset => (cutBytes? offset s).map Prod.fst
  | none => some s

theorem behindMark?_eq (mark : Char) (s : List Char) :
    behindMark? mark s = some (((split? [mark] s).map Prod.snd).getD s) := by
  rw [behindMark?]
  cases found : split? [mark] s with
  | none =>
    rw [offset?_bytes, found]
    rfl
  | some parts =>
    obtain ⟨offset, -, behind⟩ := cutBytes?_of_split? found
    rw [offset]
    exact congrArg (Option.map Prod.snd) behind

theorem beforeMark?_eq (mark : Char) (s : List Char) :
    beforeMark? mark s = some (cutAt (· = mark) s) := by
  rw [beforeMark?]
  cases found : split? [mark] s with
  | none =>
    rw [offset?_bytes, found, cutAt_of_not_mem (split?_singleton_eq_none_iff.mp found)]
    rfl
  | some parts =>
    obtain ⟨offset, before, -⟩ := cutBytes?_of_split? found
    rw [offset, cutAt_of_split? found]
    exact congrArg (Option.map Prod.fst) before

end VerifierTrials.Utf8
