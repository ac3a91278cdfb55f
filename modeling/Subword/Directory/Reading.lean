import Subword.FileTree
import Subword.Merges
import Subword.PieceFile
import Subword.Json.Reader

/-!
# Reading files

The files of a tokenizer by their kind: lists of tokens, documents, tables of
ids, merge rules and piece models. A fault in a file is reported with its path.

## Main definitions

* `FileTree.readLines`: The lines of a file.
* `FileTree.readDocument`: The document in a file.
* `FileTree.readTokenIds`: The table of ids in a file.
* `FileTree.readRules`: The merge rules in a file.
* `FileTree.readPieceModel`: The piece model in a file.
-/

namespace Subword

/-- Lines without the last one if that is empty. -/
def dropLastEmpty (lines : List String) : List String :=
  if lines.getLast? = some "" then lines.dropLast else lines

namespace FileTree

/-- A fault of the file at a path. -/
def faultAt {α : Type} (path : FilePath) (fault : LoadFault) : Except Error α :=
  .error (.load fault (some path.toString))

/-- The lines of a file, one token each. A line feed at the end begins no line. -/
def readLines (tree : FileTree) (path : FilePath) : Except Error (List String) := do
  let text ← tree.readText path
  return dropLastEmpty (Text.lines text)

/-- What is reported when a document in a file is not read. Only what is wrong with its grammar
    is expected. -/
def documentFault (fault : Json.Fault) : LoadFault :=
  match fault.problem with
  | .longInteger digits => .raw (.longInteger digits)
  | _ => .malformedJson fault

/-- The document in a file. -/
def readDocument (tree : FileTree) (path : FilePath) : Except Error Json := do
  let text ← tree.readText path
  match Json.parse (String.ofList text) with
  | .ok value => .ok value
  | .error fault => faultAt path (documentFault fault)

/-- The table of ids in a file: tokens with what is stated as their ids. -/
def readTokenIds (tree : FileTree) (path : FilePath) : Except Error (List (String × Json)) := do
  match ← tree.readDocument path with
  | .obj entries => .ok entries
  | value => faultAt path (.notTokenIds value.kind)

/-- The merge rules in a file. -/
def readRules (tree : FileTree) (path : FilePath) : Except Error MergeRules := do
  let text ← tree.readText path
  match MergeRules.ofLines (Text.lines text) with
  | .ok rules => .ok rules
  | .error fault => faultAt path (.rules fault)

/-- The piece model in a file, as the library reads it. -/
def readPieceModel [PieceLibrary] (tree : FileTree) (path : FilePath) : Except Error PieceModel :=
  match tree.status path with
  | .file bytes =>
    match PieceLibrary.read bytes with
    | .ok table => .ok (PieceModel.ofTable table)
    | .error .reported => faultAt path .malformedModel
    | .error (.other message) => faultAt path (.raw (.library message))
  | _ => faultAt path .missingModelFile

end FileTree

end Subword
