import Subword.Text.Search

/-!
# Texts cut at literals

Cutting a text at literals only puts marks into it. The parts put together
again are the text, and the parts that are said to be literals are among those
that were looked for.

A walk over the characters skips those of a literal that was found, which is
why its invariant speaks of the rest of the text behind the characters to be
skipped.

## Main definitions

* `Text.textOf`: The text that some parts make together.

## Theorems

* `Text.textOf_cut`: The parts of a text are the text.
* `Text.literal_of_mem_cut`: A part that is a literal was looked for.
-/

namespace Subword

namespace Text

/-- The characters of a part. -/
def Segment.chars : Segment → List Char
  | .literal s => s
  | .plain s => s

/-- The text that some parts make together. -/
def textOf (parts : List Segment) : List Char := parts.flatMap Segment.chars

theorem textOf_append (a b : List Segment) : textOf (a ++ b) = textOf a ++ textOf b :=
  List.flatMap_append

theorem textOf_cons (part : Segment) (rest : List Segment) :
    textOf (part :: rest) = part.chars ++ textOf rest :=
  List.flatMap_cons

theorem textOf_endPlain (plain : List Char) (done : List Segment) :
    textOf (endPlain plain done).reverse = textOf done.reverse ++ plain.reverse := by
  unfold endPlain
  cases plain with
  | nil => exact (List.append_nil _).symm
  | cons c rest =>
    rw [if_neg (by simp only [List.isEmpty_cons, Bool.false_eq_true, not_false_eq_true]),
      List.reverse_cons, textOf_append, textOf_cons]
    exact congrArg _ (List.append_nil _)

theorem ne_nil_of_mem_longestFirst {literals : List (List Char)} {l : List Char}
    (h : l ∈ longestFirst literals) : l ≠ [] := by
  unfold longestFirst at h
  rw [List.mem_mergeSort, List.mem_filter] at h
  intro hl
  rw [hl] at h
  exact Bool.false_ne_true h.2

theorem mem_of_mem_longestFirst {literals : List (List Char)} {l : List Char}
    (h : l ∈ longestFirst literals) : l ∈ literals := by
  unfold longestFirst at h
  rw [List.mem_mergeSort, List.mem_filter] at h
  exact h.1

/-- The parts so far, the characters of the one that has begun and what is not skipped make the
    text. -/
theorem textOf_cutOnto {literals : List (List Char)} (hne : ∀ l ∈ literals, l ≠ [])
    (everywhere : Bool) (s : List Char) : ∀ (done : List Segment) (plain : List Char)
      (skip : Nat), textOf (cutOnto literals everywhere done plain skip s)
        = textOf done.reverse ++ plain.reverse ++ s.drop skip := by
  induction s with
  | nil =>
    intro done plain skip
    rw [cutOnto, textOf_endPlain, List.drop_nil, List.append_nil]
  | cons c rest ih =>
    intro done plain skip
    cases skip with
    | succ skip => rw [cutOnto, List.drop_succ_cons, ih]
    | zero =>
      rw [cutOnto, List.drop_zero]
      cases hfind : literals.find? fun l => l.isPrefixOf (c :: rest) with
      | some l =>
        -- The literal is the next part; its characters but the first are still to be skipped.
        have hfound := List.find?_some hfind
        rcases List.isPrefixOf_iff_prefix.1 hfound with ⟨back, hback⟩
        cases l with
        | nil => exact absurd rfl (hne [] (List.mem_of_find?_eq_some hfind))
        | cons d l =>
          rw [List.cons_append, List.cons.injEq] at hback
          rcases hback with ⟨rfl, rfl⟩
          have hdrop : (l ++ back).drop ((d :: l).length - 1) = back := by
            rw [List.length_cons, Nat.add_sub_cancel, List.drop_left]
          rw [ih, hdrop, List.reverse_cons, textOf_append, textOf_endPlain, textOf_cons,
            List.reverse_nil, List.append_nil, List.append_assoc, List.append_assoc,
            List.append_assoc]
          exact (List.append_assoc (textOf done.reverse) plain.reverse (d :: (l ++ back))).symm
      | none =>
        cases everywhere with
        | true =>
          rw [if_pos rfl, ih, textOf_endPlain, List.reverse_singleton, List.drop_zero,
            List.append_assoc _ [c], List.singleton_append]
        | false =>
          rw [if_neg Bool.false_ne_true, ih, List.reverse_cons, List.drop_zero,
            ← List.append_assoc _ _ [c], List.append_assoc _ [c], List.singleton_append]

/-- The parts of a text are the text. -/
theorem textOf_cut (literals : List (List Char)) (s : List Char) :
    textOf (cut literals s) = s := by
  unfold cut
  rw [textOf_cutOnto (fun l hl => ne_nil_of_mem_longestFirst hl)]
  rfl

theorem literal_of_mem_endPlain {plain l : List Char} {done : List Segment}
    (h : .literal l ∈ endPlain plain done) : .literal l ∈ done := by
  unfold endPlain at h
  split at h
  · exact h
  · rcases List.mem_cons.1 h with heq | hmem
    · cases heq
    · exact hmem

theorem literal_of_mem_cutOnto {literals : List (List Char)} (everywhere : Bool)
    {l : List Char} (s : List Char) : ∀ (done : List Segment) (plain : List Char) (skip : Nat),
      .literal l ∈ cutOnto literals everywhere done plain skip s →
        l ∈ literals ∨ .literal l ∈ done := by
  induction s with
  | nil =>
    intro done plain skip h
    rw [cutOnto, List.mem_reverse] at h
    exact Or.inr (literal_of_mem_endPlain h)
  | cons c rest ih =>
    intro done plain skip h
    cases skip with
    | succ skip =>
      rw [cutOnto] at h
      exact ih done plain skip h
    | zero =>
      rw [cutOnto] at h
      cases hfind : literals.find? fun l => l.isPrefixOf (c :: rest) with
      | some found =>
        rw [hfind] at h
        rcases ih _ _ _ h with hmem | hmem
        · exact Or.inl hmem
        · rcases List.mem_cons.1 hmem with heq | hmem
          · rcases Segment.literal.inj heq
            exact Or.inl (List.mem_of_find?_eq_some hfind)
          · exact Or.inr (literal_of_mem_endPlain hmem)
      | none =>
        rw [hfind] at h
        dsimp only at h
        split at h
        · rcases ih _ _ _ h with hmem | hmem
          · exact Or.inl hmem
          · exact Or.inr (literal_of_mem_endPlain hmem)
        · exact ih _ _ _ h

/-- A part that is a literal was looked for. -/
theorem literal_of_mem_cut {literals : List (List Char)} {s l : List Char}
    (h : .literal l ∈ cut literals s) : l ∈ literals := by
  rcases literal_of_mem_cutOnto _ s [] [] 0 h with hmem | hmem
  · exact mem_of_mem_longestFirst hmem
  · exact absurd hmem List.not_mem_nil

end Text

end Subword
