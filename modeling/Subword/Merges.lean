import Subword.Error
import Subword.Numbering
import Subword.Text.Lines

/-!
# Merge rules

Byte pair encoding grows symbols by rules. A rule is a pair of symbols that may
be fused into one, and the rules are ranked by position, the first being the
most urgent. Applying the rules to a row of symbols goes in rounds: each round
finds the most urgent rule that fits somewhere and fuses the leftmost pair it
fits, until no rule fits any more. Every round makes the row shorter by one,
which is why this ends.

Rules are written one to a line, the two symbols with a space between them, or
as entries of a document, either so or as lists of two.

## Main definitions

* `MergeRules`: Ranked rules.
* `MergeRules.ofPairs`, `MergeRules.ofLines`, `MergeRules.ofEntries`: The three sources.
* `fuseAt`: A row of symbols with one pair fused.
* `MergeRules.best?`: The pair of a row that is fused next.
* `MergeRules.apply`: A row with the rules applied.

## Theorems

* `join_fuseAt`: Fusing symbols does not change what they spell together.
* `MergeRules.length_fuseAt_of_best?`: Fusing the next pair makes a row shorter.
-/

namespace Subword

/-- Ranked pairs of symbols. -/
structure MergeRules where
  pairs : Numbering (String × String)

/-- A row of symbols in which the one at a position is fused with the next. -/
def fuseAt : Nat → List String → List String
  | 0, a :: b :: rest => (a ++ b) :: rest
  | i + 1, a :: rest => a :: fuseAt i rest
  | _, symbols => symbols

/-- Fusing symbols does not change what they spell together. -/
theorem join_fuseAt (position : Nat) (symbols : List String) :
    String.join (fuseAt position symbols) = String.join symbols := by
  induction position generalizing symbols with
  | zero => rcases symbols with _ | ⟨a, _ | ⟨b, rest⟩⟩ <;> simp [fuseAt, String.append_assoc]
  | succ position ih =>
    cases symbols with
    | nil => rfl
    | cons a rest => simp [fuseAt, ih]

namespace MergeRules

/-- The rank of a pair, if there is a rule for it. -/
def rank? (rules : MergeRules) (left right : String) : Option Nat :=
  rules.pairs.get? (left, right)

/-- How many rules there are. -/
def size (rules : MergeRules) : Nat := rules.pairs.size

/-- The pairs in the order of their ranks. -/
def toList (rules : MergeRules) : List (String × String) := rules.pairs.toList

/-- Rules in short. -/
def summary (rules : MergeRules) : String :=
  "MergeTable(rules=" ++ toString rules.size ++ ")"

/-! ## Applying rules -/

/-- The lowest rank of the neighbours in a row, and the leftmost position that has it. -/
def best? (rules : MergeRules) : List String → Option (Nat × Nat)
  | a :: b :: rest =>
    match rules.rank? a b, best? rules (b :: rest) with
    | none, none => none
    | some rank, none => some (rank, 0)
    | none, some (rank, position) => some (rank, position + 1)
    | some rank, some (rank', position) =>
      if rank ≤ rank' then some (rank, 0) else some (rank', position + 1)
  | _ => none

/-- Fusing the next pair makes a row shorter. -/
theorem length_fuseAt_of_best? {rules : MergeRules} {symbols : List String}
    {rank position : Nat} (h : rules.best? symbols = some (rank, position)) :
    (fuseAt position symbols).length < symbols.length := by
  induction symbols generalizing rank position with
  | nil => simp [best?] at h
  | cons a rest ih =>
    cases rest with
    | nil => simp [best?] at h
    | cons b rest =>
      unfold best? at h
      split at h
      · cases h
      · cases h
        simp [fuseAt]
      · next r p _ hb =>
        cases h
        have := ih hb
        simpa [fuseAt] using this
      · next r r' p _ hb =>
        split at h
        · cases h
          simp [fuseAt]
        · cases h
          have := ih hb
          simpa [fuseAt] using this

/-- A row of symbols with the rules applied until none fits. -/
def apply (rules : MergeRules) (symbols : List String) : List String :=
  match _h : rules.best? symbols with
  | none => symbols
  | some (_, position) => apply rules (fuseAt position symbols)
termination_by symbols.length
decreasing_by exact length_fuseAt_of_best? _h

/-! ## Reading rules -/

/-- The rules of some pairs, which must differ from each other. -/
def ofPairs (pairs : List (String × String)) : Except LoadFault MergeRules :=
  match Numbering.ofList pairs with
  | .ok pairs => .ok ⟨pairs⟩
  | .error r => .error (.duplicateRule r.key.1 r.key.2 r.first r.second)

/-- The two parts of a text around its only space, none of them empty. -/
def twoParts? (s : List Char) : Option (String × String) :=
  let left := s.takeWhile (· ≠ ' ')
  let right := (s.dropWhile (· ≠ ' ')).drop 1
  if left.isEmpty || right.isEmpty || right.contains ' ' then none
  else some (String.ofList left, String.ofList right)

/-- Whether a line says nothing: it is blank, or it is the first and names a version. -/
def isSkipped (number : Nat) (line : List Char) : Bool :=
  line.all Text.isBlank || (number = 1 && "#version".toList.isPrefixOf line)

/-- The pairs of some lines, the first of which has a given number. -/
def pairsOfLines (number : Nat) (done : List (String × String)) :
    List String → Except LoadFault (List (String × String))
  | [] => .ok done.reverse
  | line :: rest =>
    let text := Text.trimLineEnds line.toList
    if isSkipped number text then pairsOfLines (number + 1) done rest
    else
      match twoParts? text with
      | some pair => pairsOfLines (number + 1) (pair :: done) rest
      | none => .error (.malformedRuleLine (String.ofList text) number)

/-- The rules of some lines. -/
def ofLines (lines : List String) : Except LoadFault MergeRules :=
  pairsOfLines 1 [] lines >>= ofPairs

/-- The pair of an entry of a document. -/
def pairOfEntry (index : Nat) : Json → Except LoadFault (String × String)
  | .str s =>
    match twoParts? s.toList with
    | some pair => .ok pair
    | none => .error (.malformedRule (.str s) index)
  | .arr [.str a, .str b] =>
    if a.isEmpty || b.isEmpty then .error (.malformedRule (.arr [.str a, .str b]) index)
    else .ok (a, b)
  | .arr items => .error (.malformedRule (.arr items) index)
  | entry => .error (.invalidRule entry index)

/-- The pairs of some entries, the first of which has a given position. -/
def pairsOfEntries (index : Nat) (done : List (String × String)) :
    List Json → Except LoadFault (List (String × String))
  | [] => .ok done.reverse
  | entry :: rest =>
    match pairOfEntry index entry with
    | .ok pair => pairsOfEntries (index + 1) (pair :: done) rest
    | .error fault => .error fault

/-- The rules of some entries of a document. -/
def ofEntries (entries : List Json) : Except LoadFault MergeRules :=
  pairsOfEntries 0 [] entries >>= ofPairs

end MergeRules

end Subword
