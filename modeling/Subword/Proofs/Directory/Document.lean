import Subword.Directory.Loading
import Subword.Proofs.Json.Fields
import Subword.Proofs.Outcome
import Subword.Proofs.Text.Utf8

/-!
# Reading documents

What was written to a file is read from it.

The smallest directory that holds a tokenizer has a descriptor in it and nothing
else. Nothing stands beside the descriptor that could say something about the
tokenizer, so what is loaded is what the text of the document says.

## Main definitions

* `FileTree.holding`: A tree with a descriptor.
* `Hints.silent`: Hints that say nothing.

## Theorems

* `FileTree.readText_of_status`, `FileTree.readDocument_of_status`: What was written is read.
* `FileTree.locate_holding`: The descriptor is found.
* `FileTree.readDocument_holding`: The document is read.
* `Tokenizer.result_load_of_locate`: A tokenizer that is loaded is that of the layout.
* `Tokenizer.result_load_holding`: That of a directory with one document is the descriptor's.
-/

namespace Subword

/-- Hints that say nothing. -/
def Hints.silent : Hints := Hints.ofDocuments (.obj []) (.obj [])

namespace FileTree

variable {tree : FileTree} {path : FilePath}

/-- The text that was written to a file is read from it. -/
theorem readText_of_status {text : List Char}
    (h : tree.status path = .file (Text.Utf8.encode text)) : tree.readText path = .ok text := by
  unfold readText
  rw [h]
  dsimp only
  rw [Text.Utf8.decode_encode_chars]

/-- A text that is read stands in a file. -/
theorem isFile_of_readText {text : List Char} (h : tree.readText path = .ok text) :
    tree.isFile path = true := by
  unfold readText at h
  unfold isFile
  dsimp only at h
  split at h
  · cases h
  · cases h
  · cases h
  · next hstatus => rw [hstatus]

/-- The document that was written to a file is read from it. -/
theorem readDocument_of_status {text : String} {document : Json}
    (h : tree.status path = .file (Text.Utf8.encode text.toList))
    (hparse : Json.parse text = .ok document) : tree.readDocument path = .ok document := by
  have hchars : Json.parse (String.ofList text.toList) = .ok document := by
    rw [String.ofList_toList, hparse]
  unfold readDocument
  rw [bind_eq_ok_iff]
  exact ⟨text.toList, readText_of_status h, by rw [hchars]⟩

/-! ## One document -/

/-- The directory in which the descriptor is. -/
def home : FilePath := ⟨["m"]⟩

/-- The path of the descriptor. -/
def descriptorPath : FilePath := home.child Layout.descriptorFile

/-- A tree with a descriptor that has a given text. -/
def holding (text : String) : FileTree :=
  ⟨[(descriptorPath.parts, .file (Text.Utf8.encode text.toList))]⟩

theorem locate_holding (text : String) :
    Layout.locate (holding text) home = .ok (home, .descriptor) := rfl

theorem result_read_holding (text : String) :
    (Hints.read (holding text) home).result = .ok Hints.silent := rfl

/-- The document is read. -/
theorem readDocument_holding {text : String} {document : Json}
    (h : Json.parse text = .ok document) :
    (holding text).readDocument descriptorPath = .ok document :=
  readDocument_of_status rfl h

end FileTree

namespace Tokenizer

variable [PieceLibrary] {tree : FileTree} {directory root : FilePath} {layout : Layout}
  {hints : Hints}

/-- A tokenizer that is loaded is that of the layout, unless a policy is chosen. -/
theorem result_load_of_locate (hlocate : Layout.locate tree directory = .ok (root, layout))
    (hhints : (Hints.read tree root).result = .ok hints) (config : Option Config) :
    (load tree directory config).result = (loadLayout layout tree root hints config).result := by
  have hplain : (loadPlain tree directory config).result
      = (loadLayout layout tree root hints config).result := by
    unfold loadPlain
    rw [Outcome.result_bind_of_ok hlocate]
    exact Outcome.result_bind_of_ok hhints _
  unfold load
  rw [bind_pure, hplain]

/-- The tokenizer of a directory with one document is that of the descriptor. -/
theorem result_load_holding {text : String} {document : Json} {d : Descriptor}
    (h : Json.parse text = .ok document)
    (hd : (Descriptor.ofJson document (some FileTree.descriptorPath.toString)).result = .ok d)
    (config : Option Config) : (load (FileTree.holding text) FileTree.home config).result
      = (d.load FileTree.descriptorPath Hints.silent config).result := by
  rw [result_load_of_locate (FileTree.locate_holding text) (FileTree.result_read_holding text)]
  show (loadDescriptor _ _ _ _).result = _
  unfold loadDescriptor
  dsimp only
  rw [Outcome.result_bind_of_ok (FileTree.readDocument_holding h)]
  exact Outcome.result_bind_of_ok hd _

end Tokenizer

end Subword
