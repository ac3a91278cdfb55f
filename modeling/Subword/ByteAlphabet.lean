import Subword.Text.Utf8

/-!
# The byte alphabet

Byte pair encoding over bytes writes each byte as a character, so that symbols
and rules are texts. Bytes that are visible characters of the first two hundred
and fifty-six stand for themselves. The other sixty-eight, which fall into
three runs, stand for the characters from U+0100 on in the order of the bytes.

A token made of such characters goes back to bytes character by character;
a character outside the alphabet goes to its own UTF-8 bytes.

## Main definitions

* `ByteAlphabet.symbol`: The character for a byte.
* `ByteAlphabet.byte?`: The byte of a character of the alphabet.
* `ByteAlphabet.symbols`: The characters for the bytes of a text.
* `ByteAlphabet.bytes`: The bytes of a text over the alphabet.
-/

namespace Subword

namespace ByteAlphabet

/-- The code point of the character for a byte. -/
def symbolPoint (b : Nat) : Nat :=
  if b < 0x21 then 0x100 + b
  else if b < 0x7F then b
  else if b < 0xA1 then 0x121 + (b - 0x7F)
  else if b = 0xAD then 0x143
  else b

/-- The character for a byte. -/
def symbol (b : UInt8) : Char :=
  Char.ofNat (symbolPoint b.toNat)

/-- The byte whose character has a given code point. -/
def bytePoint? (p : Nat) : Option Nat :=
  if 0x21 ≤ p && p < 0x7F || 0xA1 ≤ p && p < 0x100 && p ≠ 0xAD then some p
  else if 0x100 ≤ p && p < 0x121 then some (p - 0x100)
  else if 0x121 ≤ p && p < 0x143 then some (p - 0x121 + 0x7F)
  else if p = 0x143 then some 0xAD
  else none

/-- The byte of a character of the alphabet. -/
def byte? (c : Char) : Option UInt8 :=
  (bytePoint? c.toNat).map UInt8.ofNat

/-- The characters for the bytes of a text. -/
def symbols (s : List Char) : List Char :=
  (Text.Utf8.encode s).map symbol

/-- The bytes of a character, inside the alphabet or not. -/
def bytesOfChar (c : Char) : List UInt8 :=
  match byte? c with
  | some b => [b]
  | none => Text.Utf8.encodeChar c

/-- The bytes of a text over the alphabet. -/
def bytes (s : List Char) : List UInt8 :=
  s.flatMap bytesOfChar

/-- Every byte comes back from its character. -/
theorem bytePoint?_symbolPoint : ∀ b < 256, bytePoint? (symbolPoint b) = some b := by
  decide +kernel

end ByteAlphabet

end Subword
