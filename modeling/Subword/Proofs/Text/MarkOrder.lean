import Mathlib.Data.List.Chain
import Subword.Proofs.Text.Parting

/-!
# Marks in order

Marks are put in order by a stable insertion, run by run. Nothing is lost, what
comes out is in order, and what is in order already stays as it is. A text is
therefore left alone by a second ordering, and the only texts that an ordering
leaves alone are those in order.

Order does not survive everything. Between two marks in descending order stands
a character of class zero, and if that is dropped the marks meet. As long as
only characters of other classes are dropped, those that meet follow each other
by way of the dropped ones.

The walk has in hand the marks that wait, the last one first. Its invariant is
that they descend in this reverse order. What is done stays in front and need
not be looked at again.

## Main definitions

* `Follows`: A character that may stand behind another.
* `InOrder`: A text whose marks are in canonical order.

## Theorems

* `orderMarks_perm`: Marks are put in order, and nothing else.
* `inOrder_orderMarks`: What comes out is in order.
* `orderMarks_eq_self_iff`: Texts in order are the ones that stay as they are.
* `InOrder.filter`: Dropping marks whose class is not zero keeps the order.
-/

namespace Subword

namespace Text

open Decomposition

variable {c d : Char} {s : List Char}

/-- Whether a character may stand right behind another: it is of class zero, or not of a lower
    class. -/
def Follows (c d : Char) : Prop :=
  rank d = 0 ∨ rank c ≤ rank d

instance : DecidableRel Follows := fun c d =>
  inferInstanceAs (Decidable (rank d = 0 ∨ rank c ≤ rank d))

/-- Whether the marks of a text are in canonical order. -/
def InOrder (s : List Char) : Prop :=
  s.IsChain Follows

instance : DecidablePred InOrder := fun s =>
  inferInstanceAs (Decidable (s.IsChain Follows))

/-- Marks that wait, in reverse: none is of a lower class than those behind it. -/
def Descends (waiting : List Char) : Prop :=
  waiting.Pairwise fun c d => rank d ≤ rank c

/-- Anything stands behind a character of class zero. -/
theorem follows_of_rank (h : rank c = 0) (d : Char) : Follows c d := by
  right
  rw [h]
  exact Nat.zero_le (rank d)

/-- Characters with one of another class between them follow each other without it. -/
theorem Follows.trans {e : Char} (hcd : Follows c d) (hde : Follows d e) (hrank : rank d ≠ 0) :
    Follows c e :=
  hde.imp_right (hcd.resolve_left hrank).trans

/-! ## Waiting marks -/

theorem insertMark_perm (c : Char) (waiting : List Char) :
    (insertMark c waiting).Perm (c :: waiting) := by
  induction waiting with
  | nil => exact .refl _
  | cons m rest ih =>
    rw [insertMark]
    split
    · exact (ih.cons m).trans (.swap c m rest)
    · exact .refl _

/-- A mark is put where they still descend. -/
theorem Descends.insertMark {waiting : List Char} (h : Descends waiting) (c : Char) :
    Descends (insertMark c waiting) := by
  induction waiting with
  | nil => exact List.pairwise_singleton _ c
  | cons m rest ih =>
    rcases List.pairwise_cons.1 h with ⟨hm, hrest⟩
    rw [Decomposition.insertMark]
    split
    · next hlt =>
      refine List.pairwise_cons.2 ⟨?_, ih hrest⟩
      intro d hd
      rcases List.mem_cons.1 ((insertMark_perm c rest).mem_iff.1 hd) with rfl | hd
      · exact Nat.le_of_lt hlt
      · exact hm d hd
    · next hle =>
      refine List.pairwise_cons.2 ⟨?_, h⟩
      intro d hd
      rcases List.mem_cons.1 hd with rfl | hd
      · exact Nat.le_of_not_lt hle
      · exact (hm d hd).trans (Nat.le_of_not_lt hle)

/-- In the order of the text they follow each other. -/
theorem Descends.inOrder_reverse {waiting : List Char} (h : Descends waiting) :
    InOrder waiting.reverse :=
  ((List.pairwise_reverse.2 h).imp Or.inr).isChain

/-! ## Texts put in order -/

theorem orderOnto_perm (s : List Char) : ∀ done waiting : List Char,
    (orderOnto done waiting s).Perm (s ++ (waiting ++ done)) := by
  -- A character of class zero goes behind the marks that wait, any other is put among them.
  induction s with
  | nil =>
    intro done waiting
    exact List.reverse_perm _
  | cons c s ih =>
    intro done waiting
    rw [orderOnto]
    split
    · exact (ih _ []).trans List.perm_middle
    · refine (ih done _).trans (((insertMark_perm c waiting).append_right done).append_left s
        |>.trans List.perm_middle)

/-- Putting marks in order only changes the order. -/
theorem orderMarks_perm (s : List Char) : (orderMarks s).Perm s := by
  have hperm := orderOnto_perm s [] []
  rwa [List.append_nil, List.append_nil] at hperm

theorem inOrder_orderOnto (s : List Char) : ∀ waiting : List Char, Descends waiting →
    InOrder (orderOnto [] waiting s) := by
  induction s with
  | nil =>
    intro waiting h
    rw [orderOnto, List.append_nil]
    exact h.inOrder_reverse
  | cons c s ih =>
    intro waiting h
    rw [orderOnto]
    split
    · next hrank =>
      -- Behind a character of class zero the walk begins anew.
      have hrest : InOrder (c :: orderOnto [] [] s) :=
        (ih [] .nil).cons fun d _ => follows_of_rank hrank d
      rw [orderOnto_eq, List.append_nil, List.reverse_cons, List.append_assoc,
        List.singleton_append]
      refine h.inOrder_reverse.append hrest ?_
      intro m _ d hd
      cases hd
      exact Or.inl hrank
    · exact ih _ (h.insertMark c)

/-- What comes out is in order. -/
theorem inOrder_orderMarks (s : List Char) : InOrder (orderMarks s) :=
  inOrder_orderOnto s [] .nil

/-- Marks that follow those that wait go behind them, and nothing moves. -/
theorem orderOnto_eq_self (h : InOrder s) : ∀ done waiting : List Char,
    (∀ m ∈ waiting.head?, ∀ c ∈ s.head?, Follows m c) →
      orderOnto done waiting s = (waiting ++ done).reverse ++ s := by
  induction s with
  | nil =>
    intro done waiting _
    rw [orderOnto, List.append_nil]
  | cons c s ih =>
    intro done waiting hfront
    rcases List.isChain_cons.1 h with ⟨hc, hs⟩
    rw [orderOnto]
    split
    · rw [ih hs _ [] fun m hm => absurd hm (Option.not_mem_none m), List.nil_append,
        List.reverse_cons, List.append_assoc, List.singleton_append]
    · next hrank =>
      have hinsert : insertMark c waiting = c :: waiting := by
        cases waiting with
        | nil => rfl
        | cons m rest =>
          -- The mark is not below the last one that waits, and stays behind it.
          have hle := (hfront m rfl c rfl).resolve_left hrank
          rw [insertMark, if_neg (Nat.not_lt.2 hle)]
      have hnext : ∀ m ∈ (c :: waiting).head?, ∀ d ∈ s.head?, Follows m d := by
        intro m hm d hd
        cases hm
        exact hc d hd
      rw [hinsert, ih hs done _ hnext, List.cons_append, List.reverse_cons, List.append_assoc,
        List.singleton_append]

/-- The texts that stay as they are are those in order. -/
theorem orderMarks_eq_self_iff : orderMarks s = s ↔ InOrder s := by
  constructor
  · intro h
    rw [← h]
    exact inOrder_orderMarks s
  · intro h
    exact orderOnto_eq_self h [] [] fun m hm => absurd hm (Option.not_mem_none m)

/-! ## Characters that are dropped -/

theorem InOrder.tail (h : InOrder (c :: s)) : InOrder s :=
  (List.isChain_cons.1 h).2

/-- What is behind a dropped character stands behind the one in front of it. -/
theorem InOrder.drop_second (h : InOrder (c :: d :: s)) (hrank : rank d ≠ 0) :
    InOrder (c :: s) := by
  rcases List.isChain_cons_cons.1 h with ⟨hcd, hd⟩
  rcases List.isChain_cons.1 hd with ⟨hnext, hs⟩
  exact hs.cons fun e he => hcd.trans (hnext e he) hrank

theorem InOrder.cons_filter {p : Char → Bool} (h : InOrder (c :: s))
    (hrank : ∀ d ∈ s, p d = false → rank d ≠ 0) : InOrder (c :: s.filter p) := by
  induction s generalizing c with
  | nil => exact h
  | cons d s ih =>
    have hmore := fun e he => hrank e (List.mem_cons_of_mem d he)
    cases hp : p d with
    | true =>
      rcases List.isChain_cons_cons.1 h with ⟨hcd, hd⟩
      rw [List.filter_cons_of_pos hp]
      exact (ih hd hmore).cons_cons hcd
    | false =>
      rw [List.filter_cons_of_neg (by rw [hp]; exact Bool.false_ne_true)]
      exact ih (h.drop_second (hrank d List.mem_cons_self hp)) hmore

/-- Dropping characters whose class is not zero keeps the order. -/
theorem InOrder.filter {p : Char → Bool} (h : InOrder s)
    (hrank : ∀ d ∈ s, p d = false → rank d ≠ 0) : InOrder (s.filter p) := by
  have hspace : rank ' ' = 0 := by decide +kernel
  -- A space in front changes nothing, as everything may stand behind it.
  have hfront : InOrder (' ' :: s) := h.cons fun d _ => follows_of_rank hspace d
  exact (hfront.cons_filter hrank).tail

end Text

end Subword
