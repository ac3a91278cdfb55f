import Subword.Json.Reader
import Subword.Regex.Reader
import Subword.Text.Utf8

/-!
# Errors and warnings

What can go wrong, by cause. A cause carries the data that its wording needs,
and the wording is made of it in one place. Errors fall into the families that
callers tell apart: artifacts that cannot be loaded, directories of no known
layout, ids outside a vocabulary, special tokens where none may be, wrong
options, and wrong patterns.

Some errors name a place: a file, a token, a line. The place is part of the
message, in parentheses behind the cause, and can also be asked for by itself.

Not every error that loading ends in is in one of these families. What an
operation underneath the readers fails for, a conversion or the library for
piece models, is only taken up where a reader expects it. Otherwise it is passed
on as it comes and names no place.

## Main definitions

* `RawFault`: What is passed on as it comes.
* `LoadFault`, `FormatFault`, `IdFault`, `ConfigFault`, `PatternFault`: The causes.
* `Error`: A cause with its place.
* `Error.kind`: What callers tell errors apart by.
* `Error.message`: The wording.
* `Warning`: What is reported without stopping.
-/

namespace Subword

/-- Why a file could not be read as text. -/
inductive ReadFault where
  | isDirectory (path : String)
  | underFile (path : String)
  | notUtf8 (fault : Text.Utf8.Fault)

/-- What an operation underneath the readers fails for, where no reader expects it. -/
inductive RawFault where
  /-- An integer in a document has too many digits to be converted. -/
  | longInteger (digits : Nat)
  /-- An integer is beyond the range of scores. -/
  | greatScore
  /-- A value of a kind that has no items is gone through. -/
  | noItems (kind : String)
  /-- The library for piece models fails in a way that is not expected of it. -/
  | library (message : String)

/-- Why the parts of a tokenizer could not be loaded. -/
inductive LoadFault where
  | duplicateToken (token : String) (first second : Nat)
  | nonIntegerId (token : String) (id : Json)
  | negativeId (token : String) (id : Int)
  | sharedId (token : String) (id : Int)
  | missingId (id : Nat)
  | unknownSlots (names : List String)
  | missingUnknown (tried : Option String)
  | slotOutOfRange (slot : String) (id : Int)
  | duplicateRule (left right : String) (first second : Nat)
  | malformedRuleLine (text : String) (line : Nat)
  | invalidRule (entry : Json) (index : Nat)
  | malformedRule (entry : Json) (index : Nat)
  /-- A fault of the merge rules of a file. -/
  | rules (fault : LoadFault)
  | scoreCount (scores tokens : Nat)
  | malformedJson (fault : Json.Fault)
  | notTokenIds (kind : String)
  | missingModelFile
  | malformedModel
  | missingFile
  | unreadable (fault : ReadFault)
  | notDescriptor
  | noModel
  | malformedAddedToken (item : Json)
  | nonIntegerAddedId (content : String) (id : Json)
  | addedTokenConflict (content : String) (id : Int) (present : Json)
  | vocabularyNotObject (modelType : String)
  | vocabularyNotList
  | malformedPiece (entry : Json) (index : Nat)
  | duplicatePiece (piece : String)
  /-- A fault that no reader takes up. -/
  | raw (fault : RawFault)

/-- Why a directory was not taken for one of a tokenizer. -/
inductive FormatFault where
  | noDirectory
  | noArtifacts (found : List String)
  | unsupportedModel (modelType : Json)

/-- Why a value is no id of a vocabulary. -/
inductive IdFault where
  | notInteger (value : Json)
  | outOfRange (id : Int)

/-- The kinds of things that are chosen by name. -/
inductive NameKind where
  | side | padding | mode | policy | tokenizerType
  deriving DecidableEq, Repr

/-- Why options were not accepted. -/
inductive ConfigFault where
  | badLength (value : Json)
  | unknownName (kind : NameKind) (name : String)
  | uncappedPadding
  | missingSubset
  | capTooSmall (cap wrapping : Nat)

/-- Why a pattern was not accepted. -/
inductive PatternFault where
  | unknownName (name : String) (known : List String)
  | malformed (pattern : String) (fault : Regex.Fault)
  /-- The pattern goes beyond what is read here. It need not be a wrong one. -/
  | beyond (pattern : String) (fault : Regex.Fault)

/-- An error with its place. -/
inductive Error where
  | load (fault : LoadFault) (path : Option String)
  | format (fault : FormatFault) (path : String)
  | invalidId (fault : IdFault) (size : Nat)
  | specialFound (literals : List String)
  | config (fault : ConfigFault)
  | pattern (fault : PatternFault)
  /-- One text was given where a list of texts is asked for. -/
  | singleText
  /-- Two tables of a batch differ in shape. -/
  | shapeMismatch (ids mask : List Nat)

/-- What callers tell errors apart by. -/
inductive ErrorKind where
  | artifact | format | invalidId | specialToken | config | pattern
  /-- The three kinds of errors of operations. -/
  | wrongType | wrongValue | outOfRange
  /-- An error of the library for piece models. -/
  | library
  /-- No error of the tokenizer, but a pattern that is not covered. -/
  | notCovered
  deriving DecidableEq, Repr

/-- The wording of a reading fault. -/
def ReadFault.message : ReadFault → String
  | isDirectory path => "[Errno 21] Is a directory: " ++ Text.quote path
  | underFile path => "[Errno 20] Not a directory: " ++ Text.quote path
  | notUtf8 fault => fault.message

namespace RawFault

/-- What callers know a fault by that is passed on. -/
def kind : RawFault → ErrorKind
  | longInteger _ => .wrongValue
  | greatScore => .outOfRange
  | noItems _ => .wrongType
  | library _ => .library

/-- The wording of a fault that is passed on. -/
def message : RawFault → String
  | longInteger digits => (Json.Problem.longInteger digits).message
  | greatScore => "int too large to convert to float"
  | noItems kind => Text.quote kind ++ " object is not iterable"
  | library message => message

end RawFault

namespace LoadFault

/-- The token that a fault is about. -/
def token? : LoadFault → Option String
  | duplicateToken token _ _ | nonIntegerId token _ | negativeId token _ | sharedId token _ =>
    some (Text.showControls token)
  | missingUnknown tried => tried
  | duplicateRule left right _ _ => some (Text.showControls (left ++ " " ++ right))
  | malformedRuleLine text _ => some (Text.showControls text)
  | nonIntegerAddedId content _ | addedTokenConflict content _ _ => some content
  | duplicatePiece piece => some piece
  | _ => none

/-- The line, or the position in a list, that a fault is about. -/
def line? : LoadFault → Option Nat
  | malformedRuleLine _ line => some line
  | invalidRule _ index | malformedRule _ index | malformedPiece _ index => some index
  | _ => none

/-- A part of a message in parentheses, if there is something to say. -/
def note (label : String) (text : Option String) : String :=
  match text with
  | none => ""
  | some text => "(" ++ label ++ ": " ++ text ++ ") "

/-- The place of a fault, behind a blank. -/
def place (fault : LoadFault) (path : Option String) : String :=
  " " ++ note "path" (path.filter (!·.isEmpty)) ++
    note "token" (fault.token?.map Text.quote) ++ note "line" (fault.line?.map toString)

/-- The wording of a cause, without its place. -/
def text : LoadFault → String
  | duplicateToken _ first second =>
    "duplicate token at ids " ++ toString first ++ " and " ++ toString second
  | nonIntegerId _ id => "non-integer id " ++ id.literal
  | negativeId _ id => "negative id " ++ toString id
  | sharedId _ id => "id " ++ toString id ++ " assigned to more than one token"
  | missingId id =>
    "token ids must be contiguous from 0, first missing id is " ++ toString id
  | unknownSlots names => "unknown special token slots: " ++ Text.quoteList names
  | missingUnknown _ => "missing required unknown token"
  | slotOutOfRange slot id =>
    "special token id " ++ toString id ++ " for slot " ++ Text.quote slot ++ " is out of range"
  | duplicateRule _ _ first second =>
    "duplicate merge rule at ranks " ++ toString first ++ " and " ++ toString second
  | malformedRuleLine _ _ => "merge rule must be two space-separated symbols"
  | invalidRule entry _ => "invalid merge entry " ++ entry.literal
  | malformedRule entry _ => "merge rule must have two symbols, got " ++ entry.literal
  -- The message of the rules is quoted whole, with its place and without the blank at its end.
  | rules fault =>
    String.ofList (Text.trimBlanks (fault.text ++ fault.place none).toList)
  | scoreCount scores tokens =>
    "piece table has " ++ toString scores ++ " scores for " ++ toString tokens ++ " tokens"
  | malformedJson fault =>
    "malformed JSON: " ++ fault.problem.message ++ " at line " ++ toString fault.line
  | notTokenIds kind => "expected a JSON object of token ids, got " ++ kind
  | missingModelFile => "piece model file does not exist"
  | malformedModel => "cannot parse piece model"
  | missingFile => "file does not exist"
  | unreadable fault => "cannot read file: " ++ fault.message
  | notDescriptor => "descriptor must be a JSON object"
  | noModel => "descriptor has no model block"
  | malformedAddedToken item => "malformed added token " ++ item.literal
  | nonIntegerAddedId _ id => "non-integer id " ++ id.literal
  | addedTokenConflict _ id present =>
    "added token id " ++ toString id ++ " conflicts with vocabulary id " ++ present.display
  | vocabularyNotObject modelType =>
    modelType ++ " model vocab must be a token -> id object"
  | vocabularyNotList => "Unigram model vocab must be a list of [piece, score] pairs"
  | malformedPiece entry _ => "malformed piece entry " ++ entry.literal
  | duplicatePiece _ => "duplicate piece"
  | raw fault => fault.message

/-- The message of a fault with its place, which one that is passed on does not name. -/
def message (fault : LoadFault) (path : Option String) : String :=
  match fault with
  | raw fault => fault.message
  | fault => fault.text ++ fault.place path

/-- What callers know a fault by. -/
def kind : LoadFault → ErrorKind
  | raw fault => fault.kind
  | _ => .artifact

end LoadFault

namespace FormatFault

/-- What was found instead. -/
def found? : FormatFault → Option (List Json)
  | noDirectory => none
  | noArtifacts found => some (found.map Json.str)
  | unsupportedModel modelType => some [modelType]

/-- The wording of a cause. -/
def text : FormatFault → String
  | noDirectory => "tokenizer directory does not exist"
  | noArtifacts _ => "no recognized tokenizer artifacts"
  | unsupportedModel modelType =>
    "unsupported descriptor model type " ++ modelType.literal

/-- The message of a fault with its place. -/
def message (fault : FormatFault) (path : String) : String :=
  fault.text ++ " " ++ LoadFault.note "path" (some path) ++
    LoadFault.note "found" (fault.found?.map fun found => (Json.arr found).literal)

end FormatFault

/-- The message of a fault about an id. -/
def IdFault.message (fault : IdFault) (size : Nat) : String :=
  let size := LoadFault.note "vocab size" (some (toString size))
  match fault with
  | notInteger .null => "id is not an integer " ++ size
  | notInteger value =>
    "id is not an integer " ++ LoadFault.note "invalid id" (some value.display) ++ size
  | outOfRange id =>
    "id outside vocabulary range " ++ LoadFault.note "invalid id" (some (toString id)) ++ size

namespace NameKind

/-- What is said about a name that is not known. -/
def complaint : NameKind → String
  | side => "unknown side"
  | padding => "unknown padding policy"
  | mode => "unknown mode"
  | policy => "unknown strategy name"
  | tokenizerType => "unknown tokenizer type"

/-- The names to choose from. -/
def available : NameKind → List String
  | side => ["left", "right"]
  | padding => ["longest", "max_length"]
  | mode => ["auto", "batch", "off"]
  | policy => ["all", "none", "none-raise", "custom"]
  | tokenizerType => ["wordpiece", "bpe", "unigram"]

end NameKind

/-- The message of a fault in options. -/
def ConfigFault.message : ConfigFault → String
  | badLength value =>
    "max_sequence_length must be a positive integer or None, got " ++ value.literal ++ " "
  | unknownName kind name =>
    kind.complaint ++ " (available: " ++ Text.quoteList kind.available ++ ") (got " ++ name ++ ") "
  | uncappedPadding => "max_length padding requires max_sequence_length "
  | missingSubset => "allowed_subset is required for custom strategy "
  | capTooSmall cap wrapping =>
    "max_sequence_length " ++ toString cap ++ " cannot hold " ++ toString wrapping ++
      " special tokens "

/-- The message of a fault in a pattern. -/
def PatternFault.message : PatternFault → String
  | unknownName name known =>
    "Unknown pattern: " ++ Text.quote name ++ ". Valid patterns: " ++ ", ".intercalate known ++
      " "
  | malformed pattern fault | beyond pattern fault =>
    "invalid regex pattern " ++
      LoadFault.note "pattern" (if pattern.isEmpty then none else some (Text.quote pattern)) ++
      LoadFault.note "reason" (some fault.message)

/-- A shape in parentheses. -/
def shapeText (shape : List Nat) : String :=
  match shape with
  | [n] => "(" ++ toString n ++ ",)"
  | shape => "(" ++ ", ".intercalate (shape.map toString) ++ ")"

/-- What callers know an error by. -/
def Error.kind : Error → ErrorKind
  | load fault _ => fault.kind
  | format _ _ => .format
  | invalidId _ _ => .invalidId
  | specialFound _ => .specialToken
  | config _ => .config
  | pattern (.beyond _ _) => .notCovered
  | pattern _ => .pattern
  | singleText => .wrongType
  | shapeMismatch _ _ => .wrongValue

/-- The message of an error. -/
def Error.message : Error → String
  | load fault path => fault.message path
  | format fault path => fault.message path
  | invalidId fault size => fault.message size
  | specialFound literals =>
    "special tokens found in text but not allowed (found: " ++ ", ".intercalate literals ++ ")"
  | config fault => fault.message
  | pattern fault => fault.message
  | singleText => "texts must be a sequence of strings, not a single string"
  | shapeMismatch ids mask =>
    "ids shape " ++ shapeText ids ++ " does not match attention mask shape " ++ shapeText mask

/-- What is reported without stopping. -/
inductive Warning where
  | noSpecialTokens
  | specialTokensIgnored
  | bytePiecesMissing (present : Nat)
  | splitPatternIgnored (pattern : Json)
  | sideFileIgnored (name : String)
  | metaspaceIgnored

/-- The wording of a warning. -/
def Warning.message : Warning → String
  | noSpecialTokens => "no special tokens registered"
  | specialTokensIgnored => "special tokens found in text but not allowed"
  | bytePiecesMissing present =>
    "byte fallback requested but vocabulary has " ++ toString present ++ " of 256 byte pieces"
  | splitPatternIgnored pattern => "ignoring non-regex split pattern " ++ pattern.literal
  | sideFileIgnored name => "ignoring " ++ name ++ ": expected a JSON object"
  | metaspaceIgnored =>
    "Metaspace pre-tokenizer on a BPE model is not supported, " ++
      "splitting with the regex pattern instead"

end Subword
