import Std.Data.HashMap

/-!
# Numberings

A list of distinct keys numbers them: a key's number is its position. Tokens
have their ids in this way, and merge rules their ranks. A numbering keeps the
keys in order and a table from keys to numbers beside them, and the two say the
same.

A list in which a key comes twice numbers nothing; the first key that comes
again is reported with both its positions.

## Main definitions

* `Numbering`: Distinct keys with their positions.
* `Numbering.ofList`: The numbering of a list without repetition.
* `Numbering.get?`, `Numbering.key?`: The number of a key, and the key of a number.

## Theorems

* `Numbering.get?_eq_some_iff`: The two are inverse to each other.
-/

namespace Subword

/-- Equal texts have equal hashes. -/
instance lawfulHashableString : LawfulHashable String := inferInstance

/-- Distinct keys, numbered by position. -/
structure Numbering (α : Type) [BEq α] [Hashable α] where
  keys : Array α
  index : Std.HashMap α Nat
  index_iff : ∀ (a : α) (i : Nat), index[a]? = some i ↔ keys[i]? = some a

/-- A key that comes twice, with its two positions. -/
structure Repeated (α : Type) where
  key : α
  first : Nat
  second : Nat

namespace Numbering

variable {α : Type} [BEq α] [Hashable α]

/-- The number of a key. -/
def get? (n : Numbering α) (a : α) : Option Nat := n.index[a]?

/-- The key of a number. -/
def key? (n : Numbering α) (i : Nat) : Option α := n.keys[i]?

/-- How many keys there are. -/
def size (n : Numbering α) : Nat := n.keys.size

/-- The keys in order. -/
def toList (n : Numbering α) : List α := n.keys.toList

/-- Whether a key is numbered. -/
def contains (n : Numbering α) (a : α) : Bool := n.index.contains a

/-- A key has a number when the number has that key. -/
theorem get?_eq_some_iff (n : Numbering α) (a : α) (i : Nat) :
    n.get? a = some i ↔ n.key? i = some a :=
  n.index_iff a i

/-- The numbering of no keys. -/
def empty : Numbering α :=
  ⟨#[], ∅, by simp⟩

variable [LawfulBEq α] [LawfulHashable α]

/-- A key more in both tables keeps them in agreement. -/
theorem index_iff_push {keys : Array α} {index : Std.HashMap α Nat} {a : α}
    (agree : ∀ (b : α) (i : Nat), index[b]? = some i ↔ keys[i]? = some b)
    (fresh : index[a]? = none) (b : α) (i : Nat) :
    (index.insert a keys.size)[b]? = some i ↔ (keys.push a)[i]? = some b := by
  rw [Std.HashMap.getElem?_insert, Array.getElem?_push]
  by_cases hb : a = b
  · subst hb
    simp only [beq_self_eq_true, if_true, Option.some.injEq]
    constructor
    · intro h
      simp [← h]
    · intro h
      split at h
      · omega
      · have := (agree a i).2 h
        rw [fresh] at this
        cases this
  · simp only [beq_iff_eq, hb, if_false]
    split
    · next h =>
      subst h
      simp only [Option.some.injEq, hb, iff_false]
      intro h
      have := (agree b keys.size).1 h
      simp at this
    · exact agree b i

/-- One key more, which is not numbered yet. -/
def push (n : Numbering α) (a : α) (fresh : n.index[a]? = none) : Numbering α :=
  match n, fresh with
  | ⟨keys, index, agree⟩, fresh =>
    let extended := index.insert a keys.size
    ⟨keys.push a, extended, index_iff_push agree fresh⟩

/-- Numbers some further keys. -/
def extend (n : Numbering α) : List α → Except (Repeated α) (Numbering α)
  | [] => .ok n
  | a :: rest =>
    match h : n.index[a]? with
    | some first => .error ⟨a, first, n.keys.size⟩
    | none => (n.push a h).extend rest

/-- The numbering of a list, or the first key in it that comes again. -/
def ofList (keys : List α) : Except (Repeated α) (Numbering α) :=
  (empty : Numbering α).extend keys

theorem toList_push (n : Numbering α) (a : α) (fresh : n.index[a]? = none) :
    (n.push a fresh).toList = n.toList ++ [a] := by
  simp [push, toList]

theorem toList_of_extend {n m : Numbering α} {keys : List α} (h : n.extend keys = .ok m) :
    m.toList = n.toList ++ keys := by
  induction keys generalizing n with
  | nil =>
    simp only [extend, Except.ok.injEq] at h
    simp [h]
  | cons a rest ih =>
    unfold extend at h
    split at h
    · cases h
    · rw [ih h, toList_push]
      simp

/-- The keys of the numbering of a list are the list. -/
theorem toList_of_ofList {m : Numbering α} {keys : List α} (h : ofList keys = .ok m) :
    m.toList = keys := by
  have := toList_of_extend h
  simpa [empty, toList] using this

end Numbering

end Subword
