import Subword.Proofs.Regex.Ends
import Subword.Regex.Matching

/-!
# What a search goes over

A search for successive matches takes a text apart. It finds a match, which may
be empty, or it passes over a character at which none starts. The matches alone
are what it answers with, so the text can be told from them only when nothing
was passed over.

A search is bounded by a number of steps. An empty match makes the next one take
a character, so that each step either makes the text shorter or is the only one
at its place; the number is never used up.

## Main definitions

* `Regex.Stretch`: A match, or a character that was passed over.
* `Regex.Search`: A search, part by part.

## Theorems

* `Regex.Search.textOf_eq`: The parts of a search are the text.
* `Regex.exists_search`: A search comes to its end, and answers with its matches.
* `Regex.Stretch.flatten_found_iff`: When the matches alone are the text.
-/

namespace Subword

namespace Regex

/-- A part of a text that a search goes over. -/
inductive Stretch where
  /-- A match. -/
  | found (s : List Char)
  /-- A character at which no match starts. -/
  | skipped (x : Char)
  deriving DecidableEq, Repr

namespace Stretch

/-- The characters of a part. -/
def chars : Stretch → List Char
  | found s => s
  | skipped x => [x]

/-- The match that a part is. -/
def match? : Stretch → Option (List Char)
  | found s => some s
  | skipped _ => none

/-- The text that some parts make together. -/
def textOf (parts : List Stretch) : List Char := parts.flatMap chars

/-- The matches among some parts. -/
def allFound (parts : List Stretch) : List (List Char) := parts.filterMap match?

/-- Whether a part was passed over. -/
def isSkipped : Stretch → Bool
  | found _ => false
  | skipped _ => true

theorem textOf_cons (part : Stretch) (rest : List Stretch) :
    textOf (part :: rest) = part.chars ++ textOf rest :=
  List.flatMap_cons

theorem allFound_found (s : List Char) (rest : List Stretch) :
    allFound (found s :: rest) = s :: allFound rest := rfl

theorem allFound_skipped (x : Char) (rest : List Stretch) :
    allFound (skipped x :: rest) = allFound rest := rfl

/-- What the matches lack of a text is what was passed over. -/
theorem length_flatten (parts : List Stretch) :
    (allFound parts).flatten.length + parts.countP isSkipped = (textOf parts).length := by
  induction parts with
  | nil => rfl
  | cons part rest ih =>
    rw [textOf_cons, List.length_append, ← ih]
    cases part with
    | found s =>
      rw [allFound_found, List.flatten_cons, List.length_append,
        List.countP_cons_of_neg Bool.false_ne_true, chars, Nat.add_assoc]
    | skipped x =>
      rw [allFound_skipped, List.countP_cons_of_pos rfl, chars, List.length_singleton]
      omega

/-- The matches stand in the text, in order. -/
theorem sublist_flatten (parts : List Stretch) :
    ((allFound parts).flatten).Sublist (textOf parts) := by
  induction parts with
  | nil => exact List.Sublist.slnil
  | cons part rest ih =>
    cases part with
    | found s => exact (List.Sublist.refl s).append ih
    | skipped x => exact ih.cons x

/-- The matches alone are the text exactly when nothing was passed over. -/
theorem flatten_found_iff (parts : List Stretch) :
    (allFound parts).flatten = textOf parts ↔ ∀ x, skipped x ∉ parts := by
  have hlength := length_flatten parts
  constructor
  · intro h x hx
    have hpos : 0 < parts.countP isSkipped := List.countP_pos_iff.2 ⟨_, hx, rfl⟩
    rw [h] at hlength
    omega
  · intro hnone
    have hzero : parts.countP isSkipped = 0 := by
      rw [List.countP_eq_zero]
      intro part hpart
      cases part with
      | found s => exact Bool.false_ne_true
      | skipped x => exact absurd hpart (hnone x)
    exact (sublist_flatten parts).eq_of_length (by omega)

end Stretch

variable {bound : Nat} {r : Regex} {mustAdvance : Bool} {c d : Cursor} {parts : List Stretch}

/-- The end of the match with which a search goes on at a place. -/
def next? (bound : Nat) (r : Regex) (mustAdvance : Bool) (c : Cursor) : Option Cursor :=
  if opens r.gate? c then matchAt bound r mustAdvance c else none

/-- A match reaches to a later place, and to another one if it must. -/
theorem takes_next? (h : next? bound r mustAdvance c = some d) :
    Cursor.Takes 0 c d ∧ (mustAdvance = true → d.passed ≠ c.passed) := by
  unfold next? at h
  split at h
  · rw [matchAt, Ends.find?_eq] at h
    have hadvances := List.find?_some h
    refine ⟨(takes_ends bound r c d (List.mem_of_find?_eq_some h)).mono (Nat.zero_le _), ?_⟩
    rintro hmust hsame
    rw [hmust, hsame, decide_eq_true rfl] at hadvances
    cases hadvances
  · cases h

/-- A search from a place on, part by part. The flag says whether the next match must take a
    character. -/
inductive Search (bound : Nat) (r : Regex) : Bool → Cursor → List Stretch → Prop
  | finish {mustAdvance : Bool} {passed : Nat} :
      next? bound r mustAdvance ⟨[], passed⟩ = none → Search bound r mustAdvance ⟨[], passed⟩ []
  | found {mustAdvance : Bool} {c d : Cursor} {parts : List Stretch} :
      next? bound r mustAdvance c = some d →
      Search bound r (decide (d.passed = c.passed)) d parts →
      Search bound r mustAdvance c (.found (c.between d) :: parts)
  | skipped {mustAdvance : Bool} {x : Char} {rest : List Char} {passed : Nat}
      {parts : List Stretch} :
      next? bound r mustAdvance ⟨x :: rest, passed⟩ = none →
      Search bound r false ⟨rest, passed + 1⟩ parts →
      Search bound r mustAdvance ⟨x :: rest, passed⟩ (.skipped x :: parts)

/-- The parts of a search are the text. -/
theorem Search.textOf_eq (h : Search bound r mustAdvance c parts) :
    Stretch.textOf parts = c.rest := by
  induction h with
  | finish _ => rfl
  | found hnext _ ih =>
    rw [Stretch.textOf_cons, ih]
    exact (takes_next? hnext).1.between_append
  | skipped _ _ ih =>
    rw [Stretch.textOf_cons, ih]
    rfl

/-- A search comes to its end within the steps that it has, and answers with its matches. -/
theorem exists_search_onto (steps : Nat) : ∀ (done : List (List Char)) (mustAdvance : Bool)
      (c : Cursor), 2 * c.rest.length + (if mustAdvance then 0 else 1) < steps →
      ∃ parts, Search bound r mustAdvance c parts ∧
        findOnto bound r r.gate? steps done mustAdvance c
          = done.reverse ++ Stretch.allFound parts := by
  induction steps with
  | zero => exact fun done mustAdvance c hlt => absurd hlt (Nat.not_lt_zero _)
  | succ steps ih =>
    intro done mustAdvance c hlt
    rw [findOnto, ← next?]
    cases hnext : next? bound r mustAdvance c with
    | some d =>
      rcases takes_next? hnext with ⟨htakes, hmust⟩
      have hlength := htakes.length_rest
      have hpassed := htakes.passed_le
      -- An empty match leaves the text as it is, and uses the one step that it had to spare.
      have hleft : 2 * d.rest.length + (if decide (d.passed = c.passed) then 0 else 1) < steps := by
        by_cases hsame : d.passed = c.passed
        · rw [decide_eq_true hsame, if_pos rfl]
          cases mustAdvance with
          | true => exact absurd hsame (hmust rfl)
          | false =>
            rw [if_neg Bool.false_ne_true] at hlt
            omega
        · have hmore : c.passed + 1 ≤ d.passed := by omega
          have hless := (htakes.of_passed_le hmore).length_rest
          rw [decide_eq_false hsame, if_neg Bool.false_ne_true]
          omega
      rcases ih (c.between d :: done) _ d hleft with ⟨parts, hsearch, hfound⟩
      refine ⟨_, .found hnext hsearch, ?_⟩
      dsimp only
      rw [hfound, List.reverse_cons, List.append_assoc, List.singleton_append,
        Stretch.allFound_found]
    | none =>
      rcases c with ⟨rest, passed⟩
      cases rest with
      | nil => exact ⟨[], .finish hnext, (List.append_nil _).symm⟩
      | cons x rest =>
        rw [List.length_cons] at hlt
        -- A character is passed over, and behind it an empty match will do again.
        rcases ih done false ⟨rest, passed + 1⟩ (by simp only [Bool.false_eq_true, if_false]; omega)
          with ⟨parts, hsearch, hfound⟩
        exact ⟨_, .skipped hnext hsearch, hfound⟩

/-- A search in a text goes over all of it, and answers with its matches. -/
theorem exists_search (r : Regex) (s : List Char) : ∃ parts,
    Search s.length r false (.ofText s) parts ∧ r.findAll s = Stretch.allFound parts ∧
      Stretch.textOf parts = s := by
  have hsteps : 2 * (Cursor.ofText s).rest.length + (if false = true then 0 else 1)
      < 2 * s.length + 2 := by
    rw [if_neg Bool.false_ne_true]
    exact Nat.lt_succ_self _
  rcases @exists_search_onto s.length r _ [] false (.ofText s) hsteps with
    ⟨parts, hsearch, hfound⟩
  exact ⟨parts, hsearch, hfound, hsearch.textOf_eq⟩

/-- In the empty text there is nothing to be found but the empty match. -/
theorem eq_nil_of_mem_findAll {chunk : List Char} (h : chunk ∈ r.findAll []) : chunk = [] := by
  rcases exists_search r [] with ⟨parts, _, hfound, htext⟩
  rw [hfound, Stretch.allFound, List.mem_filterMap] at h
  rcases h with ⟨part, hpart, hmatch⟩
  have hchars := List.flatMap_eq_nil_iff.1 htext part hpart
  cases part with
  | found s => exact (Option.some.inj hmatch).symm.trans hchars
  | skipped x => cases hmatch

end Regex

end Subword
