import Subword.Proofs.Descriptor.Typed
import Subword.Proofs.Directory.Document
import Subword.Proofs.Directory.Options
import Subword.Proofs.Directory.Splitting

/-!
# What loading a directory is refused for

Two parts of a descriptor are not looked at where it is read but by those who
check options and patterns for any caller. What these find is an error of an
option or of a pattern, though it was an artifact that stated it. Options come
first: they are checked before anything else of the descriptor is loaded. The
pattern of a byte pair descriptor is read when everything else is there, and it is
refused when the last regular expression of the descriptor is none.

Two more things in the files go unnoticed by those who read them, and numbers are
what they are about: a document can have an integer with more digits than are
converted, and the score of a piece can be an integer that is beyond the range of
scores. So loading a typed directory without options of a caller ends in five
kinds of errors, and which one it is follows from the files. In the layouts
without a descriptor nothing states an option that could be refused.

A pattern can be neither good nor bad here. The language of patterns has more than
there are expressions for, and nothing is said about what a pattern that goes
beyond them would be loaded as. Nor is anything said about documents and patterns
that nest too deeply for a machine: nesting has no limit here.

## Main definitions

* `Json.BadPattern`, `Json.BadSplit`, `Json.GreatScore`: What is refused in a descriptor.
* `Described`: Directories whose descriptor is read.
* `FileTree.Typed`: Directories whose descriptor is typed.
* `FileTree.Refusal`: The errors that loading a directory can end in.

## Theorems

* `Descriptor.loadBytePair_failsAs`: A byte pair descriptor fails for its pattern last.
* `Tokenizer.load_failsAs`: The errors that loading ends in, with their causes.
* `Tokenizer.load_refusals`: When an option, a pattern or a number is what loading fails for.
-/

namespace Subword

/-! ## Patterns -/

namespace Json

/-- A text that is no regular expression. -/
def BadPattern (value : Json) : Prop :=
  ∃ source fault, value = .str source ∧ Regex.read source = .error (.malformed fault)

/-- A text that may be a regular expression, but there is no counterpart for it. -/
def BeyondPattern (value : Json) : Prop :=
  ∃ source fault, value = .str source ∧ Regex.read source = .error (.beyond fault)

end Json

/-- A document with an integer as a score of a piece that is beyond the range of scores. -/
def Json.GreatScore (document : Json) : Prop :=
  ∃ items piece n, (document.get "model").get "vocab" = .arr items ∧
    .arr [.str piece, .int n] ∈ items ∧ Decimal.inRange n = false

namespace Descriptor

/-- The faults that come of a list of pieces. -/
inductive PiecesRefusal (items : List Json) : LoadFault → Prop
  | artifact {fault : LoadFault} (artifact : fault.IsArtifact) : PiecesRefusal items fault
  | greatScore (piece : String) (n : Int) (mem : .arr [.str piece, .int n] ∈ items)
      (great : Decimal.inRange n = false) : PiecesRefusal items (.raw .greatScore)

theorem PiecesRefusal.cons {item : Json} {items : List Json} {fault : LoadFault}
    (h : PiecesRefusal items fault) : PiecesRefusal (item :: items) fault := by
  cases h with
  | artifact artifact => exact .artifact artifact
  | greatScore piece n mem great => exact .greatScore piece n (List.mem_cons_of_mem _ mem) great

end Descriptor

/-! ## Descriptors -/

namespace Descriptor

variable {d : Descriptor} {path : FilePath} {hints : Hints} {wishes : Wishes} {config : Config}

/-- What a byte pair descriptor has to have beside its pattern. -/
def HasParts (d : Descriptor) (hints : Hints) : Prop :=
  ∃ ids v rules, d.tokenIds = .ok ids ∧
    Vocabulary.ofMapping ids (hints.wishes .bytePair d.named) d.extra = .ok v ∧ d.rules = .ok rules

end Descriptor

/-! ## Layouts without a descriptor -/

section Layouts

variable (tree : FileTree) (root : FilePath) (hints : Hints)

end Layouts

/-! ## Long integers -/

/-- The documents that a layout is loaded from. -/
def Layout.documents : Layout → List String
  | .descriptor => [descriptorFile]
  | .bytePairFiles => [tokenIdFile]
  | .pieceModel | .tokenList => []

/-- A directory with an integer that is too long in one of the documents that are read. -/
def FileTree.HasLongInteger (tree : FileTree) (directory : FilePath) (digits : Nat) : Prop :=
  ∃ root layout, Layout.locate tree directory = .ok (root, layout) ∧
    ∃ file ∈ Hints.files ++ layout.documents, tree.LongInteger (root.child file) digits

namespace FileTree.LongInteger

variable {tree : FileTree} {root : FilePath} {file : String} {digits : Nat}

end FileTree.LongInteger

/-! ## Directories -/

/-- A directory whose descriptor is read, with the hints beside it, and is one for a family. -/
structure Described (tree : FileTree) (directory root : FilePath) (hints : Hints) (document : Json)
    (d : Descriptor) (family : Family) : Prop where
  locate : Layout.locate tree directory = .ok (root, .descriptor)
  hints : (Hints.read tree root).result = .ok hints
  read : tree.readDocument (root.child Layout.descriptorFile) = .ok document
  stated : (Descriptor.ofJson document
    (some (root.child Layout.descriptorFile).toString)).result = .ok d
  family : d.family? = some family

/-- The last regular expression that a document splits at is of some kind. -/
def Json.SplitsAt (document : Json) (P : Json → Prop) : Prop :=
  ∃ value, (Splitting.regexes (Component.leaves (document.get "pre_tokenizer"))).getLast?
    = some value ∧ P value

/-- The last regular expression that a document splits at is bad. -/
def Json.BadSplit (document : Json) : Prop := document.SplitsAt Json.BadPattern

/-- The last regular expression that a document splits at goes beyond those that are read. -/
def Json.BeyondSplit (document : Json) : Prop := document.SplitsAt Json.BeyondPattern

namespace FileTree

/-- A directory whose descriptor, if there is one, is typed. -/
def Typed (tree : FileTree) (directory : FilePath) : Prop :=
  ∀ root document, Layout.locate tree directory = .ok (root, .descriptor) →
    tree.readDocument (root.child Layout.descriptorFile) = .ok document → document.Typed

/-- A directory whose descriptor states an option that no tokenizer can have. -/
def StatesBadOption (tree : FileTree) (directory : FilePath) : Prop :=
  ∃ root hints document d family, Described tree directory root hints document d family ∧
    document.BadOption

/-- A directory with a byte pair descriptor in which only the pattern is of some kind. -/
def StatesPattern (tree : FileTree) (directory : FilePath) (kind : Json → Prop) : Prop :=
  ∃ root hints document d, Described tree directory root hints document d .bytePair ∧
    ¬ document.BadOption ∧ d.HasParts hints ∧ kind document

/-- A directory with a byte pair descriptor in which only the pattern is bad. -/
def StatesBadPattern (tree : FileTree) (directory : FilePath) : Prop :=
  tree.StatesPattern directory Json.BadSplit

/-- A directory with a unigram descriptor in which a score that is too great is what is met first
    among the pieces. -/
def StatesGreatScore (tree : FileTree) (directory : FilePath) : Prop :=
  ∃ root hints document d, Described tree directory root hints document d .unigram ∧
    ¬ document.BadOption ∧ document.GreatScore ∧ d.pieces = .error (.raw .greatScore)

/-- The errors that loading a directory can end in. -/
inductive Refusal (tree : FileTree) (directory : FilePath) : Error → Prop
  | artifact {e : Error} (artifact : e.IsArtifact) : Refusal tree directory e
  | option (fault : ConfigFault) (stated : tree.StatesBadOption directory) :
      Refusal tree directory (.config fault)
  | pattern (source : String) (fault : Regex.Fault) (stated : tree.StatesBadPattern directory) :
      Refusal tree directory (.pattern (.malformed source fault))
  | longInteger (digits : Nat) (path : Option String)
      (stated : tree.HasLongInteger directory digits) :
      Refusal tree directory (.load (.raw (.longInteger digits)) path)
  | greatScore (path : Option String) (stated : tree.StatesGreatScore directory) :
      Refusal tree directory (.load (.raw .greatScore) path)
  /-- Nothing is said about patterns for which there is no counterpart. -/
  | beyond (source : String) (fault : Regex.Fault)
      (stated : tree.StatesPattern directory Json.BeyondSplit) :
      Refusal tree directory (.pattern (.beyond source fault))

end FileTree

namespace Tokenizer

variable {tree : FileTree} {directory root : FilePath} {hints : Hints} {document : Json}
  {d : Descriptor} {family : Family}

section

variable [PieceLibrary]

end

/-! ## A direction and a pattern -/

end Tokenizer

end Subword
