/-!
# UTF-8

Texts as bytes and back. Writing is by character. Reading walks over the bytes
with at most one unfinished sequence in hand, and cuts them into pieces: a
character, or a fault, which is a longest run of bytes that begins a sequence
and cannot be completed. The pieces account for every byte, so the same walk
serves both ways of reading: the strict one reports the first fault and where
it stands, the lenient one puts one replacement character for each fault.

The second byte of a sequence is the only one with narrower bounds than the
others. Those bounds keep out code points written longer than needed,
surrogates, and everything beyond U+10FFFF.

## Main definitions

* `encode`: The bytes of a text.
* `pieces`: The bytes of a text cut into characters and faults.
* `decode`: The strict reading.
* `decodeLossy`: The lenient reading.
-/

namespace Subword

namespace Text

namespace Utf8

/-- The bytes of a character. -/
def encodeChar (c : Char) : List UInt8 :=
  let p := c.toNat
  if p < 0x80 then [UInt8.ofNat p]
  else if p < 0x800 then [UInt8.ofNat (0xC0 + p / 64), UInt8.ofNat (0x80 + p % 64)]
  else if p < 0x10000 then
    [UInt8.ofNat (0xE0 + p / 4096), UInt8.ofNat (0x80 + p / 64 % 64),
      UInt8.ofNat (0x80 + p % 64)]
  else
    [UInt8.ofNat (0xF0 + p / 262144), UInt8.ofNat (0x80 + p / 4096 % 64),
      UInt8.ofNat (0x80 + p / 64 % 64), UInt8.ofNat (0x80 + p % 64)]

/-- The bytes of a text. -/
def encode (s : List Char) : List UInt8 :=
  s.flatMap encodeChar

/-- Why bytes are not a character. -/
inductive Reason where
  /-- No sequence starts with this byte. -/
  | start
  /-- A byte that does not continue the sequence comes before its end. -/
  | continuation
  /-- The bytes end before the sequence does. -/
  | truncated
  deriving DecidableEq, Repr

/-- A character, or a run of bytes that is none. -/
inductive Piece where
  | char (c : Char)
  | fault (reason : Reason) (bytes : List UInt8)

/-- A sequence that has begun: its bytes so far in reverse, the bits they carry, how many
    bytes are missing, and the bounds of the next one. -/
structure Begun where
  taken : List UInt8
  bits : Nat
  missing : Nat
  low : Nat
  high : Nat

/-- The sequence that a byte begins, when it begins one of more than one byte. -/
def begin? (b : UInt8) : Option Begun :=
  let n := b.toNat
  -- The bounds of the second byte leave out spellings that are too long, surrogates, and
  -- numbers above the last code point.
  if n < 0xC2 || 0xF4 < n then none
  else if n < 0xE0 then some ⟨[b], n - 0xC0, 1, 0x80, 0xBF⟩
  else if n < 0xF0 then
    some ⟨[b], n - 0xE0, 2, if n = 0xE0 then 0xA0 else 0x80, if n = 0xED then 0x9F else 0xBF⟩
  else
    some ⟨[b], n - 0xF0, 3, if n = 0xF0 then 0x90 else 0x80, if n = 0xF4 then 0x8F else 0xBF⟩

/-- The walk over the bytes: the sequence in hand, and the pieces so far in reverse. -/
structure Walk where
  begun : Option Begun
  done : List Piece

/-- Takes a byte with no sequence in hand. -/
def Walk.start (done : List Piece) (b : UInt8) : Walk :=
  if b.toNat < 0x80 then ⟨none, .char (Char.ofNat b.toNat) :: done⟩
  else
    match begin? b with
    | some begun => ⟨some begun, done⟩
    | none => ⟨none, .fault .start [b] :: done⟩

/-- Takes a byte. One that does not continue the sequence in hand ends it as a fault, and is
    taken again on its own. -/
def Walk.step (walk : Walk) (b : UInt8) : Walk :=
  match walk.begun with
  | none => start walk.done b
  | some begun =>
    if begun.low ≤ b.toNat && b.toNat ≤ begun.high then
      let bits := begun.bits * 64 + (b.toNat - 0x80)
      if begun.missing ≤ 1 then ⟨none, .char (Char.ofNat bits) :: walk.done⟩
      else ⟨some ⟨b :: begun.taken, bits, begun.missing - 1, 0x80, 0xBF⟩, walk.done⟩
    else start (.fault .continuation begun.taken.reverse :: walk.done) b

/-- The pieces in order, once all bytes are taken. -/
def Walk.finish (walk : Walk) : List Piece :=
  match walk.begun with
  | none => walk.done.reverse
  | some begun => (.fault .truncated begun.taken.reverse :: walk.done).reverse

/-- The bytes cut into characters and faults. -/
def pieces (bytes : List UInt8) : List Piece :=
  (bytes.foldl Walk.step ⟨none, []⟩).finish

/-- A fault and the number of bytes in front of it. -/
structure Fault where
  position : Nat
  reason : Reason
  bytes : List UInt8

/-- The characters of some pieces, if there is no fault among them. The arguments are the
    number of bytes in front of them and the characters so far in reverse. -/
def gather (position : Nat) (done : List Char) : List Piece → Except Fault (List Char)
  | [] => .ok done.reverse
  | .char c :: rest => gather (position + (encodeChar c).length) (c :: done) rest
  | .fault reason bytes :: _ => .error ⟨position, reason, bytes⟩

/-- The text that some bytes spell, or the first fault in them. -/
def decode (bytes : List UInt8) : Except Fault (List Char) :=
  gather 0 [] (pieces bytes)

/-- The character for a piece; a fault becomes the replacement character. -/
def Piece.shown : Piece → Char
  | .char c => c
  | .fault _ _ => '\uFFFD'

/-- The text that some bytes spell, with a replacement character for each fault. -/
def decodeLossy (bytes : List UInt8) : List Char :=
  (pieces bytes).map Piece.shown

/-- A byte in two hexadecimal digits. -/
def hexByte (b : UInt8) : String :=
  String.ofList [Nat.digitChar (b.toNat / 16), Nat.digitChar (b.toNat % 16)]

/-- What is wrong with the bytes of a fault. -/
def Reason.message : Reason → String
  | .start => "invalid start byte"
  | .continuation => "invalid continuation byte"
  | .truncated => "unexpected end of data"

/-- The wording of a fault. -/
def Fault.message (fault : Fault) : String :=
  match fault.bytes with
  | [b] =>
    "'utf-8' codec can't decode byte 0x" ++ hexByte b ++ " in position " ++
      toString fault.position ++ ": " ++ fault.reason.message
  | bytes =>
    "'utf-8' codec can't decode bytes in position " ++ toString fault.position ++ "-" ++
      toString (fault.position + bytes.length - 1) ++ ": " ++ fault.reason.message

end Utf8

end Text

end Subword
