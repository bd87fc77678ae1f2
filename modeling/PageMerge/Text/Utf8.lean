/-!
# UTF-8

Texts as bytes and back. A character is written as a lead byte, which says how many bytes follow
and how the next one is bounded, and tail bytes of six bits each. Strict decoding refuses a byte
sequence at the first byte that starts no character; lenient decoding puts `U+FFFD` for the longest
start of a character that is broken off there, and goes on after it.

## Main definitions

* `Bytes`: a sequence of bytes
* `Utf8.encode`: the bytes of a text
* `Utf8.decode`: the text of the bytes, or the offset of the first byte that starts no character
* `Utf8.decodeLenient`: the text of the bytes with replacement characters

## Main results

* `Utf8.length_readChar_le`: reading a character never runs past the end
-/

namespace PageMerge.Text

/-- A sequence of bytes, such as the content of a file. -/
abbrev Bytes := List UInt8

namespace Utf8

/-- What a lead byte promises: the number of tail bytes, the bounds of the first of them, and the
bits of the code point that the lead byte holds itself. -/
structure Lead where
  tails : Nat
  low : UInt8
  high : UInt8
  bits : Nat

/-- The promise of a byte from `0x80` on, unless no character starts with it. -/
def lead? (a : UInt8) : Option Lead :=
  if a < 0xC2 then none
  else if a < 0xE0 then some ⟨1, 0x80, 0xBF, a.toNat - 0xC0⟩
  else if a = 0xE0 then some ⟨2, 0xA0, 0xBF, 0⟩
  else if a = 0xED then some ⟨2, 0x80, 0x9F, 0x0D⟩
  else if a < 0xF0 then some ⟨2, 0x80, 0xBF, a.toNat - 0xE0⟩
  else if a = 0xF0 then some ⟨3, 0x90, 0xBF, 0⟩
  else if a < 0xF4 then some ⟨3, 0x80, 0xBF, a.toNat - 0xF0⟩
  else if a = 0xF4 then some ⟨3, 0x80, 0x8F, 4⟩
  else none

/-- Reads `n` tail bytes, the first within `low` and `high`, onto the bits read so far. The result
is the code point, or `none` when a tail byte is missing, and the bytes after the last tail that
was accepted. -/
def readTails : (n : Nat) → (low high : UInt8) → (bits : Nat) → Bytes → Option Nat × Bytes
  | 0, _, _, bits, rest => (some bits, rest)
  | _ + 1, _, _, _, [] => (none, [])
  | n + 1, low, high, bits, b :: rest =>
    if low ≤ b ∧ b ≤ high then readTails n 0x80 0xBF (bits * 64 + (b.toNat - 0x80)) rest
    else (none, b :: rest)

/-- The first character and the bytes after it; no character when the bytes start with none, with
the bytes after its broken start. -/
def readChar (a : UInt8) (rest : Bytes) : Option Char × Bytes :=
  if a < 0x80 then (some (Char.ofNat a.toNat), rest)
  else match lead? a with
    | none => (none, rest)
    | some lead =>
      let (point, rest) := readTails lead.tails lead.low lead.high lead.bits rest
      (point.map Char.ofNat, rest)

theorem length_readTails_le (n : Nat) (low high : UInt8) (bits : Nat) (bs : Bytes) :
    (readTails n low high bits bs).2.length ≤ bs.length := by
  induction n generalizing low high bits bs with
  | zero => simp [readTails]
  | succ n ih =>
    cases bs with
    | nil => simp [readTails]
    | cons b rest =>
      rw [readTails]
      split
      · exact Nat.le_trans (ih ..) (by simp)
      · simp

/-- Reading a character consumes no more than the bytes that are there. -/
theorem length_readChar_le (a : UInt8) (rest : Bytes) :
    (readChar a rest).2.length ≤ rest.length := by
  unfold readChar
  split
  · simp
  · split
    · simp
    · exact length_readTails_le ..

/-- The bytes of a text. -/
def encode (s : String) : Bytes := s.toList.flatMap String.utf8EncodeChar

/-- The characters of the bytes, or the offset of the first byte that starts no character, where
`offset` bytes come before. -/
def decodeFrom (offset : Nat) : Bytes → Except Nat (List Char)
  | [] => .ok []
  | a :: rest =>
    match h : readChar a rest with
    | (none, _) => .error offset
    | (some c, after) =>
      have : after.length < rest.length + 1 := by
        have := length_readChar_le a rest
        simp only [h] at this
        omega
      (decodeFrom (offset + (rest.length + 1 - after.length)) after).map (c :: ·)
termination_by bs => bs.length

/-- The text of the bytes, or the offset of the first byte that starts no character. -/
def decode (bs : Bytes) : Except Nat String := (decodeFrom 0 bs).map String.ofList

/-- The text of the bytes, if they are UTF-8. -/
def decode? (bs : Bytes) : Option String := (decode bs).toOption

/-- The character that stands for a broken one. -/
def replacement : Char := '\ufffd'

/-- The characters of the bytes, with a replacement for every broken character. -/
def decodeLenientChars : Bytes → List Char
  | [] => []
  | a :: rest =>
    have : (readChar a rest).2.length < rest.length + 1 :=
      Nat.lt_succ_of_le (length_readChar_le a rest)
    (readChar a rest).1.getD replacement :: decodeLenientChars (readChar a rest).2
termination_by bs => bs.length

/-- The text of the bytes, with a replacement for every broken character. -/
def decodeLenient (bs : Bytes) : String := String.ofList (decodeLenientChars bs)

@[simp] theorem encode_empty : encode "" = [] := rfl

@[simp] theorem encode_append (s t : String) : encode (s ++ t) = encode s ++ encode t := by
  simp [encode]

end Utf8

end PageMerge.Text
