/-!
# UTF-8 bytes

`decodeLossy` reads bytes as UTF-8 and puts one replacement character in place of each
maximal ill-formed part: a byte that cannot start a character, or the longest start of
a character that the next byte (or the end) breaks off; the breaking byte is read
again as the start of what follows. `encode` writes characters as UTF-8.

`readContinuation_newline` says that a line feed never continues a character, so it
always stands for itself in the decoded text.
-/

namespace Discovery.Text

/-- The replacement character. -/
def replacementChar : Char := '�'

/-- Read `need` continuation bytes, the first in `lo ..= hi` and the others in
`0x80 ..= 0xBF`, onto the value `v`; also say how many bytes were read. -/
def readContinuation : (need : Nat) → (lo hi : UInt8) → (v : Nat) → List UInt8 → Option Nat × Nat
  | 0, _, _, v, _ => (some v, 0)
  | _ + 1, _, _, _, [] => (none, 0)
  | n + 1, lo, hi, v, c :: cs =>
    if lo ≤ c && c ≤ hi then
      let r := readContinuation n 0x80 0xBF (v * 64 + c.toNat % 64) cs
      (r.1, r.2 + 1)
    else (none, 0)

/-- The character that the byte `b` starts, if the bytes after it complete it, and how
many bytes after `b` belong to it or to its broken start. -/
def readScalar (b : UInt8) (bs : List UInt8) : Option Nat × Nat :=
  if b < 0x80 then (some b.toNat, 0)
  else if 0xC2 ≤ b && b ≤ 0xDF then readContinuation 1 0x80 0xBF (b.toNat % 32) bs
  else if b = 0xE0 then readContinuation 2 0xA0 0xBF (b.toNat % 16) bs
  else if b = 0xED then readContinuation 2 0x80 0x9F (b.toNat % 16) bs
  else if 0xE1 ≤ b && b ≤ 0xEF then readContinuation 2 0x80 0xBF (b.toNat % 16) bs
  else if b = 0xF0 then readContinuation 3 0x90 0xBF (b.toNat % 8) bs
  else if 0xF1 ≤ b && b ≤ 0xF3 then readContinuation 3 0x80 0xBF (b.toNat % 8) bs
  else if b = 0xF4 then readContinuation 3 0x80 0x8F (b.toNat % 8) bs
  else (none, 0)

theorem readContinuation_le : ∀ (need : Nat) (lo hi : UInt8) (v : Nat) (bs : List UInt8),
    (readContinuation need lo hi v bs).2 ≤ bs.length
  | 0, _, _, _, _ => by simp [readContinuation]
  | _ + 1, _, _, _, [] => by simp [readContinuation]
  | n + 1, lo, hi, v, c :: cs => by
    simp only [readContinuation]
    split
    · have := readContinuation_le n 0x80 0xBF (v * 64 + c.toNat % 64) cs
      simp only [List.length_cons]
      omega
    · simp

theorem readScalar_le (b : UInt8) (bs : List UInt8) : (readScalar b bs).2 ≤ bs.length := by
  unfold readScalar
  repeat' split
  all_goals first | simp | exact readContinuation_le _ _ _ _ _

/-- Bytes read as UTF-8, each maximal ill-formed part replaced. -/
def decodeLossy : List UInt8 → List Char
  | [] => []
  | b :: bs =>
    let r := readScalar b bs
    (match r.1 with
      | some v => Char.ofNat v
      | none => replacementChar) :: decodeLossy (bs.drop r.2)
termination_by bs => bs.length
decreasing_by
  simp only [List.length_drop, List.length_cons]
  omega

/-- Bytes read as a text, each maximal ill-formed part replaced. -/
def decodeLossyString (bs : List UInt8) : String := String.ofList (decodeLossy bs)

/-- The UTF-8 bytes of a character. -/
def encodeChar (c : Char) : List UInt8 :=
  let n := c.toNat
  if n < 0x80 then [n.toUInt8]
  else if n < 0x800 then [(0xC0 + n / 64).toUInt8, (0x80 + n % 64).toUInt8]
  else if n < 0x10000 then
    [(0xE0 + n / 4096).toUInt8, (0x80 + n / 64 % 64).toUInt8, (0x80 + n % 64).toUInt8]
  else
    [(0xF0 + n / 262144).toUInt8, (0x80 + n / 4096 % 64).toUInt8,
      (0x80 + n / 64 % 64).toUInt8, (0x80 + n % 64).toUInt8]

/-- The UTF-8 bytes of a text. -/
def encode (s : String) : List UInt8 := s.toList.flatMap encodeChar

theorem readContinuation_newline : ∀ (need : Nat) (lo hi : UInt8) (v : Nat) (bs : List UInt8),
    lo ≥ 0x80 → readContinuation (need + 1) lo hi v (0x0A :: bs) = (none, 0)
  | _, lo, _, _, _, h => by
    simp only [readContinuation]
    have : ¬ (lo ≤ (0x0A : UInt8)) := by
      intro h'
      have h1 := UInt8.le_iff_toNat_le.1 h
      have h2 := UInt8.le_iff_toNat_le.1 h'
      simp at h1 h2
      omega
    simp [this]

end Discovery.Text
