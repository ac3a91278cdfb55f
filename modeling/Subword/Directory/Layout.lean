import Subword.FileTree

/-!
# Layouts

A directory holds a tokenizer in one of four layouts, which are told apart by
the files that are there: a descriptor, a table of ids together with merge
rules, a piece model under one of three names, or a list of tokens. The layouts
are tried in this order, first in the directory itself and then in one inside
it that is named for its purpose.

## Main definitions

* `Layout`: The four layouts.
* `Layout.of?`: The layout of a directory.
* `Layout.locate`: Where the tokenizer of a directory is, and in which layout.
-/

namespace Subword

/-- The ways in which a directory can hold a tokenizer. -/
inductive Layout where
  | descriptor | bytePairFiles | pieceModel | tokenList
  deriving DecidableEq, Repr

namespace Layout

/-- The name of a layout. -/
def name : Layout → String
  | descriptor => "descriptor"
  | bytePairFiles => "bpe-files"
  | pieceModel => "piece-model"
  | tokenList => "wordpiece-vocab"

/-! ## Names of files -/

/-- The file of a descriptor. -/
def descriptorFile : String := "tokenizer.json"

/-- The file of a table of ids. -/
def tokenIdFile : String := "vocab.json"

/-- The file of merge rules. -/
def ruleFile : String := "merges.txt"

/-- The files of a piece model, in the order in which they are tried. -/
def pieceModelFiles : List String :=
  ["spiece.model", "sentencepiece.bpe.model", "tokenizer.model"]

/-- The file of a list of tokens. -/
def tokenListFile : String := "vocab.txt"

/-- The directory that is looked into when nothing is found beside it. -/
def innerDirectory : String := "tokenizer"

/-! ## Detection -/

/-- The piece model of a directory. -/
def pieceModelIn? (tree : FileTree) (directory : FilePath) : Option FilePath :=
  (pieceModelFiles.map directory.child).find? tree.isFile

/-- The layout of a directory. -/
def of? (tree : FileTree) (directory : FilePath) : Option Layout :=
  let has := fun file => tree.isFile (directory.child file)
  if has descriptorFile then some descriptor
  else if has tokenIdFile && has ruleFile then some bytePairFiles
  else if (pieceModelIn? tree directory).isSome then some pieceModel
  else if has tokenListFile then some tokenList
  else none

/-- Where the tokenizer of a directory is, and in which layout. -/
def locate (tree : FileTree) (directory : FilePath) : Except Error (FilePath × Layout) :=
  let inner := directory.child innerDirectory
  if !tree.isDirectory directory then .error (.format .noDirectory directory.toString)
  else
    match of? tree directory with
    | some layout => .ok (directory, layout)
    | none =>
      match (if tree.isDirectory inner then of? tree inner else none) with
      | some layout => .ok (inner, layout)
      | none => .error (.format (.noArtifacts (tree.names directory)) directory.toString)

end Layout

end Subword
