import Mathlib.Data.Nat.Bitwise
import Subword.Text.Span

/-!
# Sets of code points

A look-up in a table of spans is quick, but a statement about every entry of one
table that looks each of them up in another is not: in a proof, an array is a
list, and each of the dozen steps of a look-up walks along it. Such a statement
is settled by a set instead. The spans of a table that matter are gathered once
into the bits of a number, and after that a code point costs a single test.

The set knows nothing of the order of the spans. It need not, as it only ever
answers that a look-up finds nothing: a span that a search finds is a span of the
table, wherever the search has been.

## Main definitions

* `PointSet`: Code points, as the bits of a number.
* `PointSet.ofRanges`: The code points that some ranges cover.

## Theorems

* `PointSet.contains_ofRanges`: What is in a set of ranges.
* `Span.mem_of_find?`: A span that is found is in the table.
-/

namespace Subword

namespace Text

/-- The number of a character is the code point that it was made from. -/
theorem toNat_charOfNat {point : Nat} (h : point.isValidChar) :
    (Char.ofNat point).toNat = point := by
  rw [Char.ofNat, dif_pos h]
  rfl

/-- Some code points: those that number a bit that is set. -/
structure PointSet where
  bits : Nat

namespace PointSet

variable {point : Nat}

/-- Whether a code point is in a set. -/
def contains (s : PointSet) (point : Nat) : Bool :=
  s.bits.testBit point

/-- The code points of either of two sets. -/
def union (s t : PointSet) : PointSet :=
  ⟨s.bits ||| t.bits⟩

/-- The code points from one to another, both included. -/
def ofRange (first last : Nat) : PointSet :=
  ⟨(2 ^ (last + 1 - first) - 1) <<< first⟩

/-- The code points of some sets. -/
def unions (sets : List PointSet) : PointSet :=
  sets.foldr union ⟨0⟩

/-- The code points of some ranges, each given by its first and its last. -/
def ofRanges (ranges : List (Nat × Nat)) : PointSet :=
  unions (ranges.map fun range => ofRange range.1 range.2)

theorem contains_union (s t : PointSet) (point : Nat) :
    (s.union t).contains point = (s.contains point || t.contains point) :=
  Nat.testBit_or _ _ _

theorem contains_ofRange {first last : Nat} :
    (ofRange first last).contains point = true ↔ first ≤ point ∧ point ≤ last := by
  rw [contains, ofRange, Nat.testBit_shiftLeft, Nat.testBit_two_pow_sub_one]
  simp only [Bool.and_eq_true, decide_eq_true_eq]
  omega

theorem contains_unions {sets : List PointSet} :
    (unions sets).contains point = true ↔ ∃ s ∈ sets, s.contains point = true := by
  induction sets with
  | nil =>
    rw [unions, List.foldr_nil, contains, Nat.zero_testBit]
    simp only [Bool.false_eq_true, List.not_mem_nil, false_and, exists_false]
  | cons s sets ih =>
    rw [unions, List.foldr_cons, contains_union, Bool.or_eq_true, ← unions, ih]
    simp only [List.mem_cons, exists_eq_or_imp]

/-- A code point is in a set of ranges if it is in one of them. -/
theorem contains_ofRanges {ranges : List (Nat × Nat)} : (ofRanges ranges).contains point = true ↔
    ∃ range ∈ ranges, range.1 ≤ point ∧ point ≤ range.2 := by
  rw [ofRanges, contains_unions]
  simp only [List.mem_map, exists_exists_and_eq_and, contains_ofRange]

/-- A character in a set is none of those outside it. -/
theorem ne_of_contains {s : PointSet} {c d : Char} (hc : s.contains c.toNat = false)
    (hd : s.contains d.toNat = true) : c ≠ d := by
  rintro rfl
  rw [hc] at hd
  cases hd

end PointSet

variable {α : Type} {table : Array (Span α)} {point : Nat} {span : Span α}

/-- A search only goes to places of the table. -/
theorem Span.mem_of_search {steps low high : Nat}
    (h : search table point steps low high = some span) : span ∈ table.toList := by
  induction steps generalizing low high with
  | zero => cases h
  | succ steps ih =>
    rw [search] at h
    split at h
    · dsimp only at h
      split at h
      · cases h
      · next found hfound =>
        split at h
        · exact ih h
        · split at h
          · exact ih h
          · cases h
            exact Array.mem_def.1 (Array.mem_of_getElem? hfound)
    · cases h

/-- A span that is found is in the table, and covers what was looked up. -/
theorem Span.mem_of_find? (h : find? table point = some span) :
    span ∈ table.toList ∧ span.first ≤ point ∧ point ≤ span.last :=
  ⟨mem_of_search h, search_covers h⟩

end Text

end Subword
