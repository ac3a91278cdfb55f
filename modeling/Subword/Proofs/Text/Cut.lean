import Subword.Proofs.Text.Search

/-!
# Where a text is cut

Literals may begin alike, contain each other and overlap. What decides is where
they begin: the leftmost one is cut out, and of those that begin at the same
place the longest. The literals are tried in order of length, so the first that
fits is the longest.

This is said part by part from the end of a text backwards, since whether a
literal begins in a part depends on the text behind it. The walk that makes the
parts goes forwards. Its invariant is about the part that has begun: up to where
the walk has come, no literal begins in it.

## Main definitions

* `Text.Starts`: A literal is the longest at the beginning of a text.
* `Text.Clear`: No literal begins in a part, whatever it would reach into.
* `Text.Cuts`: Every part is as it has to be, given those behind it.
* `Text.CutAt`: What the parts of a text have to be.

## Theorems

* `Text.starts_find`: The first literal that fits is the longest.
* `Text.cuts_cutOnto`: The invariant of the walk.
* `Text.cutAt_cut`: A text is cut at the leftmost and longest literals.
-/

namespace Subword

namespace Text

/-! ## One part -/

/-- A literal is the longest one at the beginning of a text. -/
structure Starts (literals : List (List Char)) (l s : List Char) : Prop where
  mem : l ∈ literals
  isPrefix : l <+: s
  longest : ∀ m ∈ literals, m <+: s → m.length ≤ l.length

/-- No literal begins in a part, not even one that would reach into the text behind it. -/
def Clear (literals : List (List Char)) (part behind : List Char) : Prop :=
  ∀ front back, part = front ++ back → back ≠ [] → ∀ l ∈ literals, ¬ l <+: back ++ behind

theorem clear_nil (literals : List (List Char)) (behind : List Char) :
    Clear literals [] behind := by
  intro front back h hne
  exact absurd (List.append_eq_nil_iff.1 h.symm).2 hne

/-- A part in which no literal begins can be continued where none begins either. -/
theorem Clear.snoc {literals : List (List Char)} {part rest : List Char} {c : Char}
    (h : Clear literals part (c :: rest)) (hc : ∀ l ∈ literals, ¬ l <+: c :: rest) :
    Clear literals (part ++ [c]) rest := by
  intro front back hparts hne l hl
  -- The last character belongs to what is behind, and with it alone nothing begins.
  rcases List.eq_nil_or_concat back with rfl | ⟨back, d, rfl⟩
  · exact absurd rfl hne
  · rw [List.concat_eq_append, ← List.append_assoc] at hparts
    rcases List.append_inj' hparts rfl with ⟨hpart, hlast⟩
    rw [List.concat_eq_append, ← hlast, List.append_assoc, List.singleton_append]
    by_cases hback : back = []
    · rw [hback, List.nil_append]
      exact hc l hl
    · exact h front back hpart hback l hl

/-- No literal is in a part in which none begins. -/
theorem Clear.free {literals : List (List Char)} {part behind l : List Char}
    (h : Clear literals part behind) (hl : l ∈ literals) (hne : l ≠ []) : ¬ l <:+: part := by
  rintro ⟨front, back, hparts⟩
  rw [List.append_assoc] at hparts
  refine h front (l ++ back) hparts.symm ?_ l hl ?_
  · exact List.append_ne_nil_of_left_ne_nil hne back
  · rw [List.append_assoc]
    exact List.prefix_append l _

/-! ## The walk -/

/-- Every part is as it has to be, given those behind it. -/
inductive Cuts (literals : List (List Char)) : List Segment → Prop
  | nil : Cuts literals []
  | literal {l : List Char} {parts : List Segment} :
      Starts literals l (l ++ textOf parts) → Cuts literals parts →
      Cuts literals (.literal l :: parts)
  | plain {part : List Char} {parts : List Segment} :
      part ≠ [] → Clear literals part (textOf parts) →
      (∀ next behind, parts ≠ .plain next :: behind) → Cuts literals parts →
      Cuts literals (.plain part :: parts)

/-- What a walk has not ended yet goes in front of the parts behind it. -/
theorem endPlain_append (plain : List Char) (done parts : List Segment) :
    (endPlain plain done).reverse ++ parts
      = done.reverse ++ ((endPlain plain []).reverse ++ parts) := by
  unfold endPlain
  split
  · rfl
  · rw [List.reverse_cons, List.append_assoc]
    rfl

/-- A part in which no literal begins can stand in front of a literal or at the end. -/
theorem Cuts.endPlain {literals : List (List Char)} {plain : List Char} {parts : List Segment}
    (h : Cuts literals parts) (hclear : Clear literals plain.reverse (textOf parts))
    (hnext : ∀ next behind, parts ≠ .plain next :: behind) :
    Cuts literals ((Text.endPlain plain []).reverse ++ parts) := by
  cases plain with
  | nil => exact h
  | cons c plain =>
    have hne : (c :: plain).reverse ≠ [] := by
      rw [ne_eq, List.reverse_eq_nil_iff]
      exact List.cons_ne_nil c plain
    exact Cuts.plain hne hclear hnext h

/-- The first literal that fits is the longest, since they are tried in order of length. -/
theorem starts_find {literals : List (List Char)} {l s : List Char}
    (hsorted : literals.Pairwise fun a b => b.length ≤ a.length)
    (h : literals.find? (fun l => l.isPrefixOf s) = some l) : Starts literals l s := by
  rcases List.find?_eq_some_iff_append.1 h with ⟨hl, tried, others, hliterals, htried⟩
  refine ⟨List.mem_of_find?_eq_some h, List.isPrefixOf_iff_prefix.1 hl, ?_⟩
  intro m hm hprefix
  rw [hliterals] at hm hsorted
  rcases List.mem_append.1 hm with hm | hm
  · have hfits : m.isPrefixOf s = true := List.isPrefixOf_iff_prefix.2 hprefix
    have hfails := htried m hm
    rw [hfits] at hfails
    exact absurd hfails (by decide)
  · rcases List.mem_cons.1 hm with rfl | hm
    · exact Nat.le_refl _
    · exact List.rel_of_pairwise_cons (List.pairwise_append.1 hsorted).2.1 hm

/-- From where no literal begins in the part that has begun, a walk makes parts that are as they
    have to be. -/
theorem cuts_cutOnto {literals : List (List Char)} (hne : ∀ l ∈ literals, l ≠ [])
    (hsorted : literals.Pairwise fun a b => b.length ≤ a.length) (s : List Char) :
    ∀ (done : List Segment) (plain : List Char) (skip : Nat),
      Clear literals plain.reverse (s.drop skip) →
      ∃ parts, cutOnto literals false done plain skip s = done.reverse ++ parts ∧
        Cuts literals parts ∧ textOf parts = plain.reverse ++ s.drop skip := by
  induction s with
  | nil =>
    intro done plain skip hclear
    have hend := Cuts.nil.endPlain (by rwa [List.drop_nil] at hclear) (fun _ _ h => by cases h)
    refine ⟨_, ?_, hend, ?_⟩
    · rw [cutOnto, ← endPlain_append, List.append_nil]
    · rw [List.append_nil, textOf_endPlain, List.drop_nil, List.append_nil]
      rfl
  | cons c rest ih =>
    intro done plain skip hclear
    cases skip with
    | succ skip =>
      rw [cutOnto]
      exact ih done plain skip hclear
    | zero =>
      rw [List.drop_zero] at hclear
      rw [cutOnto]
      cases hfind : literals.find? fun l => l.isPrefixOf (c :: rest) with
      | some l =>
        have hstarts := starts_find hsorted hfind
        rcases hstarts.isPrefix with ⟨back, hback⟩
        -- The walk goes on behind the literal, where a new part begins.
        have hdrop : rest.drop (l.length - 1) = back := by
          have hpos : 0 < l.length := List.length_pos_iff.2 (hne l hstarts.mem)
          have hsucc : l.length - 1 + 1 = l.length := by omega
          rw [← List.drop_succ_cons (a := c), hsucc, ← hback, List.drop_left]
        rcases ih (.literal l :: endPlain plain done) [] (l.length - 1) (clear_nil _ _) with
          ⟨parts, hparts, hcuts, htext⟩
        rw [hdrop, List.reverse_nil, List.nil_append] at htext
        have htextOf : textOf (.literal l :: parts) = c :: rest := by
          rw [textOf_cons, htext]
          exact hback
        have hliteral : Cuts literals (.literal l :: parts) := by
          refine Cuts.literal ?_ hcuts
          rw [htext, hback]
          exact hstarts
        refine ⟨(endPlain plain []).reverse ++ .literal l :: parts, ?_, ?_, ?_⟩
        · dsimp only
          rw [hparts, List.reverse_cons, List.append_assoc, List.singleton_append,
            endPlain_append]
        · refine hliteral.endPlain ?_ (fun _ _ h => by cases h)
          rwa [htextOf]
        · rw [textOf_append, textOf_endPlain, htextOf, List.drop_zero]
          rfl
      | none =>
        have hnone : ∀ l ∈ literals, ¬ l <+: c :: rest := by
          intro l hl hprefix
          exact List.find?_eq_none.1 hfind l hl (List.isPrefixOf_iff_prefix.2 hprefix)
        have hsnoc : Clear literals (c :: plain).reverse (rest.drop 0) := by
          rw [List.reverse_cons, List.drop_zero]
          exact hclear.snoc hnone
        rcases ih done (c :: plain) 0 hsnoc with ⟨parts, hparts, hcuts, htext⟩
        refine ⟨parts, ?_, hcuts, ?_⟩
        · dsimp only
          rw [if_neg Bool.false_ne_true]
          exact hparts
        · rw [htext, List.reverse_cons, List.append_assoc, List.drop_zero, List.drop_zero,
            List.singleton_append]

/-! ## All parts -/

/-- What the parts of a text have to be when it is cut at some literals. -/
structure CutAt (literals : List (List Char)) (s : List Char) (parts : List Segment) : Prop where
  /-- The parts are the text. -/
  textOf_eq : textOf parts = s
  ne_nil : ∀ part ∈ parts, part.chars ≠ []
  /-- A part that is a literal is the longest one that begins where it stands. -/
  starts : ∀ front l behind, parts = front ++ .literal l :: behind →
    Starts literals l (s.drop (textOf front).length)
  /-- No literal begins anywhere in another part. -/
  clear : ∀ front part behind, parts = front ++ .plain part :: behind →
    ∀ i < part.length, ∀ l ∈ literals, ¬ l <+: s.drop ((textOf front).length + i)
  /-- No literal is in another part. -/
  free : ∀ part, .plain part ∈ parts → ∀ l ∈ literals, ¬ l <:+: part
  /-- Between two parts that are no literals is one that is. -/
  apart : ∀ front part next behind, parts ≠ front ++ .plain part :: .plain next :: behind

/-- Behind some parts, the others are still as they have to be. -/
theorem Cuts.of_append {literals : List (List Char)} {parts : List Segment}
    (front : List Segment) (h : Cuts literals (front ++ parts)) : Cuts literals parts := by
  induction front with
  | nil => exact h
  | cons part front ih =>
    rw [List.cons_append] at h
    cases h with
    | literal _ h => exact ih h
    | plain _ _ _ h => exact ih h

/-- It does not matter in which order the literals are given. -/
theorem Cuts.of_mem_iff {literals others : List (List Char)} {parts : List Segment}
    (hmem : ∀ l, l ∈ literals ↔ l ∈ others) (h : Cuts literals parts) : Cuts others parts := by
  induction h with
  | nil => exact Cuts.nil
  | literal hstarts _ ih =>
    refine Cuts.literal ⟨(hmem _).1 hstarts.mem, hstarts.isPrefix, ?_⟩ ih
    intro m hm hprefix
    exact hstarts.longest m ((hmem m).2 hm) hprefix
  | plain hne hclear hnext _ ih =>
    refine Cuts.plain hne ?_ hnext ih
    intro front back hparts hback l hl
    exact hclear front back hparts hback l ((hmem l).2 hl)

/-- What is so part by part is so in the text. -/
theorem Cuts.cutAt {literals : List (List Char)} {parts : List Segment}
    (hne : ∀ l ∈ literals, l ≠ []) (h : Cuts literals parts) :
    CutAt literals (textOf parts) parts := by
  -- The text from where a part stands begins with it.
  have hdrop : ∀ front behind, parts = front ++ behind →
      (textOf parts).drop (textOf front).length = textOf behind := by
    intro front behind hparts
    rw [hparts, textOf_append, List.drop_left]
  have hclear : ∀ front part behind, parts = front ++ .plain part :: behind →
      Clear literals part (textOf behind) := by
    intro front part behind hparts
    rw [hparts] at h
    cases h.of_append front with
    | plain _ hclear _ _ => exact hclear
  refine
    { textOf_eq := rfl
      ne_nil := ?_
      starts := ?_
      clear := ?_
      free := ?_
      apart := ?_ }
  · intro part hpart
    rcases List.append_of_mem hpart with ⟨front, behind, hparts⟩
    rw [hparts] at h
    cases h.of_append front with
    | literal hstarts _ => exact hne _ hstarts.mem
    | plain hsome _ _ _ => exact hsome
  · intro front l behind hparts
    rw [hdrop front _ hparts]
    rw [hparts] at h
    cases h.of_append front with
    | literal hstarts _ => exact hstarts
  · intro front part behind hparts i hi l hl
    have hback : part.drop i ≠ [] := by
      rw [ne_eq, List.drop_eq_nil_iff]
      omega
    have hbehind := hclear front part behind hparts (part.take i) (part.drop i)
      (List.take_append_drop i part).symm hback l hl
    rw [← List.drop_drop, hdrop front _ hparts, textOf_cons, Segment.chars,
      List.drop_append_of_le_length (Nat.le_of_lt hi)]
    exact hbehind
  · intro part hpart l hl
    rcases List.append_of_mem hpart with ⟨front, behind, hparts⟩
    exact (hclear front part behind hparts).free hl (hne l hl)
  · intro front part next behind hparts
    rw [hparts] at h
    cases h.of_append front with
    | plain _ _ hnext _ => exact hnext next behind rfl

theorem mem_longestFirst {literals : List (List Char)} (hne : ∀ l ∈ literals, l ≠ [])
    (l : List Char) : l ∈ longestFirst literals ↔ l ∈ literals := by
  refine ⟨mem_of_mem_longestFirst, ?_⟩
  intro hl
  unfold longestFirst
  rw [List.mem_mergeSort, List.mem_filter, Bool.not_eq_true', List.isEmpty_eq_false_iff]
  exact ⟨hl, hne l hl⟩

theorem pairwise_longestFirst (literals : List (List Char)) :
    (longestFirst literals).Pairwise fun a b => b.length ≤ a.length := by
  have htrans : ∀ a b c : List Char, decide (b.length ≤ a.length) = true →
      decide (c.length ≤ b.length) = true → decide (c.length ≤ a.length) = true := by
    intro a b c hab hbc
    rw [decide_eq_true_iff] at hab hbc ⊢
    omega
  have htotal : ∀ a b : List Char,
      (decide (b.length ≤ a.length) || decide (a.length ≤ b.length)) = true := by
    intro a b
    rw [Bool.or_eq_true, decide_eq_true_iff, decide_eq_true_iff]
    omega
  exact (List.pairwise_mergeSort htrans htotal _).imp fun h => of_decide_eq_true h

/-- A text is cut at the leftmost literals, and of those that begin at one place at the
    longest. -/
theorem cutAt_cut {literals : List (List Char)} (hne : ∀ l ∈ literals, l ≠ []) (s : List Char) :
    CutAt literals s (cut literals s) := by
  have hmem := mem_longestFirst hne
  have hsome : ∀ l ∈ longestFirst literals, l ≠ [] := fun l hl => hne l ((hmem l).1 hl)
  rcases cuts_cutOnto hsome (pairwise_longestFirst literals) s [] [] 0 (clear_nil _ _) with
    ⟨parts, hparts, hcuts, htext⟩
  have hnil : literals.contains [] = false := by
    rw [List.contains_eq_mem, decide_eq_false_iff_not]
    exact fun h => hne [] h rfl
  rw [List.reverse_nil, List.nil_append, List.drop_zero] at htext
  rw [cut, hnil, hparts, List.reverse_nil, List.nil_append, ← htext]
  exact (hcuts.of_mem_iff hmem).cutAt hne

end Text

end Subword
