import Subword.Directory.Reading
import Subword.Tokenizer

/-!
# Hints

Beside the files of a tokenizer there can be two documents that name its
special tokens and usual options, one for the tokens alone and one for options
and tokens. Both may be missing. Where they name different tokens for a slot,
the document for tokens counts.

Some slots go by two names, of which the first that names a token counts. A
token is named by its text or by an object around it.

## Main definitions

* `Hints`: What the two documents say.
* `Hints.read`: The hints in a directory.
* `Hints.candidates`: The tokens tried for a slot, given what hints and others name.
-/

namespace Subword

/-- What the documents beside a tokenizer say. -/
structure Hints where
  /-- The tokens named for slots. -/
  named : Slot → Option String
  lowercase : Option Bool
  maxLength : Option Nat
  addStart : Option Bool
  addEnd : Option Bool

namespace Hints

/-- The document for special tokens. -/
def tokenFile : String := "special_tokens_map.json"

/-- The document for options. -/
def optionFile : String := "tokenizer_config.json"

/-- The documents beside a tokenizer, in the order in which they are read. -/
def files : List String := [optionFile, tokenFile]

/-- The fields that name the token of a slot, in the order in which they count. -/
def fields : Slot → List String
  | .unk => ["unk_token"]
  | .pad => ["pad_token"]
  | .bos => ["bos_token", "cls_token"]
  | .eos => ["eos_token", "sep_token"]
  | .mask => ["mask_token"]

/-- The token that a value names: a text that is not empty, or an object with one. -/
def tokenOf? (value : Json) : Option String :=
  let text :=
    match value with
    | .str s => some s
    | value => (value.get "content").str?
  text.filter (!·.isEmpty)

/-- The token that a document names for a slot. -/
def namedIn (document : Json) (slot : Slot) : Option String :=
  (fields slot).findSome? fun field => tokenOf? (document.get field)

/-- Caps above this one stand for no cap. -/
def greatestLength : Nat := 1000000

/-- The cap that a value states, if it is a number in range. Decimals are cut off. -/
def lengthOf? : Json → Option Nat
  | .int (.ofNat n) => if 0 < n && n ≤ greatestLength then some n else none
  | .float x =>
    if 0.0 < x && x ≤ Decimal.ofInt greatestLength then some (Decimal.wholePart x) else none
  | _ => none

/-- The hints in two documents. -/
def ofDocuments (options tokens : Json) : Hints where
  named slot := (namedIn tokens slot).or (namedIn options slot)
  lowercase := (options.get "do_lower_case").bool?
  maxLength := lengthOf? (options.get "model_max_length")
  addStart := (options.get "add_bos_token").bool?
  addEnd := (options.get "add_eos_token").bool?

/-- A document that may be missing. One that is no object says nothing. -/
def readOptional (tree : FileTree) (directory : FilePath) (file : String) : Outcome Json :=
  let path := directory.child file
  if !tree.isFile path then return .obj []
  else do
    let document ← Outcome.ofExcept (tree.readDocument path)
    if document.isObject then return document
    else
      Outcome.warn (.sideFileIgnored file)
      return .obj []

/-- The hints in a directory. -/
def read (tree : FileTree) (directory : FilePath) : Outcome Hints := do
  let options ← readOptional tree directory optionFile
  let tokens ← readOptional tree directory tokenFile
  return ofDocuments options tokens

/-! ## Use of hints -/

/-- Candidates with one put in front. -/
def prefer (token : String) (candidates : List String) : List String :=
  token :: candidates.filter (· ≠ token)

/-- The tokens tried for a slot: the one that is named, the one that hints name, and those that
    are usual for the family. -/
def candidates (hints : Hints) (family : Family) (named : Slot → Option String) (slot : Slot) :
    List String :=
  let usual := family.candidates slot
  let hinted := (hints.named slot).elim usual fun token => prefer token usual
  (named slot).elim hinted fun token => prefer token hinted

/-- The wishes for all slots. -/
def wishes (hints : Hints) (family : Family) (named : Slot → Option String := fun _ => none) :
    Wishes :=
  Slot.all.map fun slot => (slot.name, some (.oneOf (hints.candidates family named slot)))

/-- Whether start and end tokens go around a sequence. -/
def wrapping (hints : Hints) (usual : Bool) : Bool × Bool :=
  (hints.addStart.getD usual, hints.addEnd.getD usual)

/-- What other sources say about the options of a tokenizer. -/
structure Usual where
  lowercase : Option Bool := none
  /-- The case when nobody says anything. -/
  lowercaseElse : Bool := false
  /-- The cap, null when nothing is said. -/
  cap : Json := .null
  paddingSide : Option String := none
  truncationSide : Option String := none
  fixedPadding : Bool := false

/-- The side with a given name. No name, or an empty one, is the right side. -/
def sideOf (name : Option String) : Except Error Side :=
  match name with
  | none => .ok .right
  | some name => if name.isEmpty then .ok .right else Side.ofName name

/-- The cap: the one that other sources state, or the hinted one, or the usual one. Zero states
    nothing. -/
def capOf (hints : Hints) (cap : Json) : Json :=
  if cap.holds then cap
  else .int ((hints.maxLength.filter (0 < ·)).getD Config.defaultCap)

/-- The options of a tokenizer when none are given. -/
def config (hints : Hints) (usual : Usual) : Except Error Config := do
  let paddingSide ← sideOf usual.paddingSide
  let truncationSide ← sideOf usual.truncationSide
  let cap ← Config.checkCap (hints.capOf usual.cap)
  let lowercase := usual.lowercase.getD (hints.lowercase.getD usual.lowercaseElse)
  Config.assemble cap lowercase true paddingSide truncationSide
    (if usual.fixedPadding then .toCap else .longest)

end Hints

end Subword
