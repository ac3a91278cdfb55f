/-!
# Tagged messages

The binary form in which piece models are stored. A message is a row of fields,
and a field is a number, a tag that says how its content is stored, and the
content: a number in groups of seven bits, the least ones first, a word of four
or eight bytes, or a run of bytes in front of which stands its length. Fields
can come more than once, and of a field that is to have one value the last one
counts. Fields can also stand in groups between two marks; groups are passed
over. Messages and groups nest to a limited depth.

## Main definitions

* `Wire.Content`: The content of a field.
* `Wire.message?`: The fields of a message.
-/

namespace Subword

namespace Wire

/-- The content of a field. -/
inductive Content where
  | number (n : Nat)
  | word32 (n : Nat)
  | word64 (n : Nat)
  | bytes (bytes : List UInt8)
  /-- Fields between two marks. None of them is used. -/
  | group

/-- A field of a message. -/
structure Field where
  tag : Nat
  content : Content

/-- A number in groups of seven bits. The first argument bounds the groups, the second is the
    weight of the next one. -/
def number? : Nat → Nat → List UInt8 → Option (Nat × List UInt8)
  | bound + 1, weight, b :: rest =>
    if b.toNat < 0x80 then some (b.toNat * weight, rest)
    else
      (number? bound (weight * 0x80) rest).map fun (n, rest) =>
        ((b.toNat - 0x80) * weight + n, rest)
  | _, _, _ => none

/-- A number of at most sixty-four bits. -/
def varint? (bytes : List UInt8) : Option (Nat × List UInt8) :=
  (number? 10 1 bytes).map fun (n, rest) => (n % Nat.pow 2 64, rest)

/-- A number of at most thirty-two bits, which takes five bytes at most. -/
def shortVarint? (bytes : List UInt8) : Option (Nat × List UInt8) :=
  (number? 5 1 bytes).map fun (n, rest) => (n % Nat.pow 2 32, rest)

/-- A given number of bytes, and those after them. -/
def take? (count : Nat) (bytes : List UInt8) : Option (List UInt8 × List UInt8) :=
  let front := bytes.take count
  if front.length = count then some (front, bytes.drop count) else none

/-- The number that some bytes spell, the least significant one first. -/
def littleEndian (bytes : List UInt8) : Nat :=
  bytes.foldr (fun b n => n * 0x100 + b.toNat) 0

/-- The tag of a field and the number of its kind. No field has the tag zero. -/
def key? (bytes : List UInt8) : Option (Nat × Nat × List UInt8) := do
  let (key, rest) ← shortVarint? bytes
  if key / 8 = 0 then none else return (key / 8, key % 8, rest)

/-- The content of a field of a given kind, and the bytes after it. -/
def content? (kind : Nat) (bytes : List UInt8) : Option (Content × List UInt8) := do
  match kind with
  | 0 =>
    let (n, rest) ← varint? bytes
    return (.number n, rest)
  | 1 =>
    let (word, rest) ← take? 8 bytes
    return (.word64 (littleEndian word), rest)
  | 2 =>
    let (length, rest) ← shortVarint? bytes
    let (content, rest) ← take? length rest
    return (.bytes content, rest)
  | 5 =>
    let (word, rest) ← take? 4 bytes
    return (.word32 (littleEndian word), rest)
  | _ => none

/-- The bytes behind the groups with the given tags, the innermost first. What is in a group is
    passed over, but must be fields. There is room for so many groups in one another. The second
    number bounds the fields. -/
def afterGroups? (room : Nat) : Nat → List Nat → List UInt8 → Option (List UInt8)
  | _, [], bytes => some bytes
  | 0, _, _ => none
  | bound + 1, group :: outer, bytes => do
    let (tag, kind, rest) ← key? bytes
    match kind with
    | 3 =>
      if room ≤ outer.length + 1 then none
      else afterGroups? room bound (tag :: group :: outer) rest
    | 4 => if tag = group then afterGroups? room bound outer rest else none
    | kind =>
      let (_, rest) ← content? kind rest
      afterGroups? room bound (group :: outer) rest

/-- A field and the bytes after it. -/
def field? (room : Nat) (bytes : List UInt8) : Option (Field × List UInt8) := do
  let (tag, kind, rest) ← key? bytes
  match kind with
  | 3 =>
    if room = 0 then none
    let rest ← afterGroups? room rest.length [tag] rest
    return (⟨tag, .group⟩, rest)
  | kind =>
    let (content, rest) ← content? kind rest
    return (⟨tag, content⟩, rest)

/-- The fields of a message, after those in `done`, which are in reverse. The second number
    bounds the fields. -/
def fieldsOnto (room : Nat) (done : List Field) : Nat → List UInt8 → Option (List Field)
  | _, [] => some done.reverse
  | 0, _ => none
  | bound + 1, bytes =>
    match field? room bytes with
    | none => none
    | some (field, rest) => fieldsOnto room (field :: done) bound rest

/-- How deep messages and groups may nest. -/
def deepest : Nat := 100

/-- The fields of a message that stands in so many others. -/
def message? (outer : Nat) (bytes : List UInt8) : Option (List Field) :=
  if deepest < outer then none else fieldsOnto (deepest - outer) [] bytes.length bytes

/-- The contents of the fields with a given tag that a reading accepts, in order. -/
def every {α : Type} (read : Content → Option α) (tag : Nat) (fields : List Field) : List α :=
  fields.filterMap fun field => if field.tag = tag then read field.content else none

/-- The content of the last field with a given tag that a reading accepts. -/
def last? {α : Type} (read : Content → Option α) (tag : Nat) (fields : List Field) : Option α :=
  (every read tag fields).getLast?

/-- A content that is a number. -/
def Content.number? : Content → Option Nat
  | number n => some n
  | _ => none

/-- A content that is the number of a choice, of which the thirty-two lowest bits count. -/
def Content.choice? (content : Content) : Option Nat :=
  content.number?.map (· % Nat.pow 2 32)

/-- A content that is a word of four bytes. -/
def Content.word32? : Content → Option Nat
  | word32 n => some n
  | _ => none

/-- A content that is a run of bytes. -/
def Content.bytes? : Content → Option (List UInt8)
  | bytes b => some b
  | _ => none

end Wire

end Subword
