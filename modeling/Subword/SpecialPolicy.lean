import Subword.Outcome
import Subword.Text.Search

/-!
# Special tokens in text

A text may contain the name of a special token. A policy says what that means:
the token itself, ordinary text, an error, or the token if it is one of some
chosen ones. A policy is applied to a text and the special tokens of a
vocabulary and answers with those that are to be matched.

## Main definitions

* `SpecialPolicy`: The four policies.
* `SpecialPolicy.ofName`: A policy by name.
* `SpecialPolicy.allowed`: The special tokens to be matched in a text.
-/

namespace Subword

/-- What the name of a special token in a text means. -/
inductive SpecialPolicy where
  /-- The token. -/
  | all
  /-- Ordinary text. -/
  | none
  /-- An error. -/
  | refuse
  /-- The token if it is one of these, and else ordinary text. -/
  | only (chosen : List String)
  deriving DecidableEq, Repr

namespace SpecialPolicy

/-- The policy with a given name. Choosing tokens needs the choice. -/
def ofName (name : String) (chosen : Option (List String)) : Except Error SpecialPolicy :=
  match name with
  | "all" => .ok all
  | "none" => .ok none
  | "none-raise" => .ok refuse
  | "custom" =>
    match chosen with
    | some chosen => .ok (only chosen)
    | .none => .error (.config .missingSubset)
  | name => .error (.config (.unknownName .policy name))

/-- The special tokens whose names occur in a text. -/
def occurring (text : List Char) (literals : List (String × Nat)) : List String :=
  (literals.map Prod.fst).filter fun literal => Text.occurs literal.toList text

/-- The special tokens that are to be matched in a text. -/
def allowed (policy : SpecialPolicy) (text : List Char) (literals : List (String × Nat)) :
    Outcome (List (String × Nat)) :=
  match policy with
  | all => do
    if literals.isEmpty then Outcome.warn .noSpecialTokens
    return literals
  | none => do
    if !(occurring text literals).isEmpty then Outcome.warn .specialTokensIgnored
    return []
  | refuse =>
    match occurring text literals with
    | [] => return []
    | found => Outcome.fail (.specialFound (found.mergeSort (· ≤ ·)))
  | only chosen => return literals.filter fun literal => chosen.contains literal.1

end SpecialPolicy

end Subword
