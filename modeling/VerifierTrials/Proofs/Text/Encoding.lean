import Mathlib.Data.List.Basic
import VerifierTrials.Text.Utf8

/-!
# Texts and their bytes

The bytes of a text are those of its characters, one after the other
(`Utf8.encode_eq_flatMap`), so that texts put together have their bytes put together. They are in
the same order as well: the lead byte of a character tells how many bytes follow it and grows with
the character, and the bytes after it are its digits to the base 64. So of two different characters
the lesser one has the lesser bytes, whatever comes after them (`Utf8.encodeChar_lt`), and sorting
texts is sorting their bytes (`Utf8.encode_lt_iff`).
-/

namespace VerifierTrials.Utf8

theorem encode_append (s t : String) : encode (s ++ t) = encode s ++ encode t := by
  rw [encode, encode, encode, String.toUTF8_eq_toByteArray, String.toByteArray_append]
  simp [ByteArray.data_append]

theorem encode_empty : encode "" = [] := rfl

theorem encode_eq_flatMap (s : String) : encode s = s.toList.flatMap String.utf8EncodeChar := by
  have bytes : s.toByteArray = s.toList.utf8Encode := by
    rw [← String.toByteArray_ofList, String.ofList_toList]
  rw [encode, String.toUTF8_eq_toByteArray, bytes, List.utf8Encode, List.data_toByteArray]

/-! ### The order of bytes -/

/-- Numbers are in the order of their digits to the base 64, four of them. -/
theorem lt_digits {m n : Nat} (less : m < n) :
    m / 262144 < n / 262144 ∨ m / 262144 = n / 262144 ∧
      (m / 4096 % 64 < n / 4096 % 64 ∨ m / 4096 % 64 = n / 4096 % 64 ∧
        (m / 64 % 64 < n / 64 % 64 ∨ m / 64 % 64 = n / 64 % 64 ∧ m % 64 < n % 64)) := by
  omega

/-- **The lesser character has the lesser bytes**, whatever comes after them. -/
theorem encodeChar_lt {c d : Char} (before : c < d) (rest more : Bytes) :
    String.utf8EncodeChar c ++ rest < String.utf8EncodeChar d ++ more := by
  have less : c.val.toNat < d.val.toNat := before
  have bound : d.val.toNat < 0x110000 := by
    have valid : d.val.toNat.isValidChar := d.valid
    rw [Nat.isValidChar] at valid
    omega
  have digits := lt_digits less
  -- no byte is cut off, as a digit is below 64 and the first one of four is below 8
  unfold String.utf8EncodeChar
  dsimp only
  split_ifs <;>
    simp (disch := omega) only [List.cons_append, List.nil_append, List.cons_lt_cons_iff,
      UInt8.lt_iff_toNat_lt, ← UInt8.toNat_inj, UInt8.toNat_ofNat', Nat.mod_eq_of_lt] <;>
    omega

theorem encodeChar_ne_nil (c : Char) : String.utf8EncodeChar c ≠ [] := by
  unfold String.utf8EncodeChar
  dsimp only
  split_ifs <;> exact List.cons_ne_nil _ _

theorem flatMap_encodeChar_lt {s t : List Char} (before : s < t) :
    s.flatMap String.utf8EncodeChar < t.flatMap String.utf8EncodeChar := by
  induction s generalizing t with
  | nil =>
    cases t with
    | nil => exact absurd before (List.lt_irrefl [])
    | cons d t =>
      obtain ⟨b, bytes, same⟩ := List.exists_cons_of_ne_nil (encodeChar_ne_nil d)
      rw [List.flatMap_cons, same]
      exact List.nil_lt_cons _ _
  | cons c s ih =>
    cases t with
    | nil => exact absurd before (List.not_lt_nil _)
    | cons d t =>
      rw [List.flatMap_cons, List.flatMap_cons]
      rcases List.cons_lt_cons_iff.mp before with less | ⟨rfl, further⟩
      · exact encodeChar_lt less _ _
      · exact List.append_left_lt (ih further)

/-- **Texts are in the order of their bytes.** -/
theorem encode_lt_iff {s t : String} : encode s < encode t ↔ s < t := by
  have forth : ∀ {s t : String}, s < t → encode s < encode t := fun before => by
    rw [encode_eq_flatMap, encode_eq_flatMap]
    exact flatMap_encodeChar_lt (String.lt_iff.mp before)
  refine ⟨fun less => Decidable.of_not_not fun notBefore => ?_, forth⟩
  have notBehind : ¬t < s := fun behind => List.lt_asymm less (forth behind)
  obtain rfl : s = t := String.le_antisymm notBehind notBefore
  exact List.lt_irrefl _ less

end VerifierTrials.Utf8
