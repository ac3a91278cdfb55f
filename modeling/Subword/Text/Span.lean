/-!
# Tables of code point spans

Properties of characters are given by tables: arrays of spans in increasing
order, no two of which overlap. A span covers the code points from `first` to
`last` and says one thing about them. Looking a code point up is a binary
search, so that a table of a few thousand spans is read in a dozen steps.

The search is bounded by the size of the table and not by a measure, which
keeps it a plain recursion on a number: it runs fast, and a look-up of a given
code point in a given table can be evaluated in a proof.

## Main definitions

* `Span`: The code points from one to another, with what is said about them.
* `Span.find?`: The span of a table that covers a code point.
-/

namespace Subword

namespace Text

/-- The code points from `first` to `last`, both included, and their common value. -/
structure Span (α : Type) where
  first : Nat
  last : Nat
  value : α

namespace Span

/-- A span of a table that is a set: it says only that its code points are in it. -/
def within (first last : Nat) : Span Unit :=
  ⟨first, last, ()⟩

variable {α : Type}

/-- Searches the positions from `low` up to `high` of a table, `high` left out, for the
    span that covers a code point. The first argument bounds the number of halvings. -/
def search (table : Array (Span α)) (point : Nat) : Nat → Nat → Nat → Option (Span α)
  | 0, _, _ => none
  | steps + 1, low, high =>
    if low < high then
      let middle := (low + high) / 2
      match table[middle]? with
      | none => none
      | some span =>
        if point < span.first then search table point steps low middle
        else if span.last < point then search table point steps (middle + 1) high
        else some span
    else none

/-- The span of an ordered table that covers a code point, if one does. -/
def find? (table : Array (Span α)) (point : Nat) : Option (Span α) :=
  search table point table.size 0 table.size

/-- Whether some span of an ordered table covers a code point. -/
def covers (table : Array (Span α)) (point : Nat) : Bool :=
  (find? table point).isSome

/-- A span that is found covers the code point that was looked up. -/
theorem search_covers {table : Array (Span α)} {point steps low high : Nat} {span : Span α}
    (h : search table point steps low high = some span) :
    span.first ≤ point ∧ point ≤ span.last := by
  induction steps generalizing low high with
  | zero => simp [search] at h
  | succ steps ih =>
    unfold search at h
    split at h
    · dsimp only at h
      split at h
      · cases h
      · next s _ =>
        split at h
        · exact ih h
        · split at h
          · exact ih h
          · cases h
            omega
    · cases h

end Span

end Text

end Subword
