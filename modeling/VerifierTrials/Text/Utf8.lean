/-!
# UTF-8

Files and pipes hold bytes, texts hold characters. Encoding never fails.
**Strict decoding** (`decode?`) refuses a byte sequence that no text encodes to;
**lossy decoding** (`decodeLossy`) puts one replacement character for each
maximal part of it that could have been the beginning of a character.
-/

namespace VerifierTrials

/-- What files and pipes carry. -/
abbrev Bytes := List UInt8

namespace Utf8

/-- The bytes of a text. -/
def encode (s : String) : Bytes := s.toUTF8.data.toList

/-- A byte that continues a character. -/
def isContinuation (b : UInt8) : Bool := 0x80 ≤ b && b ≤ 0xBF

/-- The six bits that a continuation byte carries. -/
def payload (b : UInt8) : Nat := b.toNat % 64

/-- The range of the second byte after a lead byte: narrower than all continuation
bytes where a longer form, a surrogate or a number too large would begin. -/
def secondRange (lead : UInt8) : UInt8 × UInt8 :=
  if lead = 0xE0 then (0xA0, 0xBF)
  else if lead = 0xED then (0x80, 0x9F)
  else if lead = 0xF0 then (0x90, 0xBF)
  else if lead = 0xF4 then (0x80, 0x8F)
  else (0x80, 0xBF)

/-- **One character off the front of a byte sequence**, given its lead byte: the
character, or nothing when the bytes are no character, and how many bytes beside
the lead one belong to it. -/
def readChar (lead : UInt8) (rest : Bytes) : Option Char × Nat :=
  if lead < 0x80 then
    (some (Char.ofNat lead.toNat), 0)
  else if 0xC2 ≤ lead && lead ≤ 0xDF then
    match rest with
    | b :: _ =>
      if isContinuation b then
        (some (Char.ofNat (lead.toNat % 32 * 64 + payload b)), 1)
      else (none, 0)
    | [] => (none, 0)
  else if 0xE0 ≤ lead && lead ≤ 0xEF then
    let (lo, hi) := secondRange lead
    match rest with
    | b :: tail =>
      if lo ≤ b && b ≤ hi then
        match tail with
        | c :: _ =>
          if isContinuation c then
            (some (Char.ofNat (lead.toNat % 16 * 4096 + payload b * 64 + payload c)), 2)
          else (none, 1)
        | [] => (none, 1)
      else (none, 0)
    | [] => (none, 0)
  else if 0xF0 ≤ lead && lead ≤ 0xF4 then
    let (lo, hi) := secondRange lead
    match rest with
    | b :: tail =>
      if lo ≤ b && b ≤ hi then
        match tail with
        | c :: tail' =>
          if isContinuation c then
            match tail' with
            | d :: _ =>
              if isContinuation d then
                (some (Char.ofNat
                  (lead.toNat % 8 * 262144 + payload b * 4096 + payload c * 64 + payload d)), 3)
              else (none, 2)
            | [] => (none, 2)
          else (none, 1)
        | [] => (none, 1)
      else (none, 0)
    | [] => (none, 0)
  else (none, 0)

/-- The characters of a byte sequence, a part that is none of them being `none`;
the number counts the bytes still to be passed over. -/
def charsFrom : Nat → Bytes → List (Option Char)
  | _, [] => []
  | n + 1, _ :: bs => charsFrom n bs
  | 0, b :: bs =>
    let (c, n) := readChar b bs
    c :: charsFrom n bs

/-- **Strict decoding.** -/
def decode? (bytes : Bytes) : Option String :=
  ((charsFrom 0 bytes).mapM id).map String.ofList

/-- **Lossy decoding.** -/
def decodeLossy (bytes : Bytes) : String :=
  String.ofList ((charsFrom 0 bytes).map fun c => c.getD (Char.ofNat 0xFFFD))

end Utf8

end VerifierTrials
