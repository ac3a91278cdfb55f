import Subword.Error
import Subword.Text.Lines

/-!
# File trees

Files and directories as a value. A tokenizer is loaded from a tree, which
makes loading a function: what it comes to depends on the tree alone.

A tree lists its entries by path. A directory need not be listed when something
lies in it. Of two entries for one path the later one counts. A path is walked
from the root of the tree part by part, two dots leading back to the parent.

## Main definitions

* `FilePath`: A relative path, without empty parts and single dots.
* `FileTree`: The entries of a tree.
* `FileTree.status`: What is found at a path.
* `FileTree.names`: What lies in a directory.
* `FileTree.readText`: The text of a file.
-/

namespace Subword

/-- A relative path in parts. -/
structure FilePath where
  parts : List String
  deriving DecidableEq, Repr

namespace FilePath

/-- The path that a text spells. Empty parts and single dots say nothing. -/
def ofString (s : String) : FilePath :=
  ⟨(Text.parts '/' s.toList).filter fun part => part ≠ "" && part ≠ "."⟩

/-- A path as text. -/
def toString (p : FilePath) : String :=
  if p.parts.isEmpty then "." else "/".intercalate p.parts

/-- The path of something in a directory. -/
def child (p : FilePath) (name : String) : FilePath := ⟨p.parts ++ [name]⟩

end FilePath

/-- What stands at a path. -/
inductive FileEntry where
  | file (bytes : List UInt8)
  | directory

/-- Files and directories by the parts of their paths, the latest first. -/
structure FileTree where
  entries : List (List String × FileEntry)

namespace FileTree

/-- The tree in which there is nothing. -/
def empty : FileTree := ⟨[]⟩

/-- The place that some parts lead to, if two dots are taken back with what they follow. -/
def flatten (place : List String) : List String → List String
  | [] => place.reverse
  | part :: rest => flatten (if part = ".." then place.drop 1 else part :: place) rest

/-- The directories that a path with two dots passes through. -/
def passed (path : FilePath) : List (List String) :=
  if path.parts.contains ".." then
    ((List.range path.parts.length).map fun n => flatten [] (path.parts.take n)).filter
      (!·.isEmpty)
  else []

/-- A tree with one entry more. The directories on the way are made if they are missing. -/
def insert (tree : FileTree) (path : FilePath) (entry : FileEntry) : FileTree :=
  ⟨(flatten [] path.parts, entry) ::
    (tree.entries ++ (passed path).map fun place => (place, .directory))⟩

/-- The entry for a path in a tree. The root is a directory, and so is what has something in
    it. -/
def entry? (tree : FileTree) (parts : List String) : Option FileEntry :=
  match tree.entries.lookup parts with
  | some entry => some entry
  | none =>
    if parts.isEmpty || tree.entries.any fun entry => parts.isPrefixOf entry.1 then
      some .directory
    else none

/-- What is found at a path. -/
inductive Status where
  | file (bytes : List UInt8)
  | directory
  | missing
  /-- A part of the path other than the last is a file. -/
  | underFile

/-- What is found at the end of some parts, from a place on that is given by its own parts in
    reverse. -/
def walk (tree : FileTree) (place : List String) : List String → Status
  | [] =>
    match tree.entry? place.reverse with
    | some (.file bytes) => .file bytes
    | some .directory => .directory
    | none => .missing
  | part :: rest =>
    match tree.entry? place.reverse with
    | some .directory =>
      if part = ".." then walk tree (place.drop 1) rest else walk tree (part :: place) rest
    | some (.file _) => .underFile
    | none => .missing

/-- What is found at a path. -/
def status (tree : FileTree) (path : FilePath) : Status :=
  walk tree [] path.parts

/-- Whether there is a file at a path. -/
def isFile (tree : FileTree) (path : FilePath) : Bool :=
  match tree.status path with
  | .file _ => true
  | _ => false

/-- Whether there is a directory at a path. -/
def isDirectory (tree : FileTree) (path : FilePath) : Bool :=
  match tree.status path with
  | .directory => true
  | _ => false

/-- The names of what lies in a directory, in order. -/
def names (tree : FileTree) (path : FilePath) : List String :=
  let place := flatten [] path.parts
  let found := tree.entries.filterMap fun entry =>
    if place.isPrefixOf entry.1 then (entry.1.drop place.length).head? else none
  (found.mergeSort (· ≤ ·)).eraseDups

/-- The text of a file. -/
def readText (tree : FileTree) (path : FilePath) : Except Error (List Char) :=
  let name := path.toString
  let fault := fun fault => Except.error (Error.load fault (some name))
  match tree.status path with
  | .missing => fault .missingFile
  | .directory => fault (.unreadable (.isDirectory name))
  | .underFile => fault (.unreadable (.underFile name))
  | .file bytes =>
    match Text.Utf8.decode bytes with
    | .ok text => .ok text
    | .error e => fault (.unreadable (.notUtf8 e))

end FileTree

end Subword
