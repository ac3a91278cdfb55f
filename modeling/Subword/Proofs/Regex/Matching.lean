import Mathlib.Data.List.TakeWhile
import Subword.Proofs.Regex.Ends
import Subword.Regex.Matching

/-!
# Matches that cover a text

If a match starts wherever a character is left, and no match is empty, then
successive matches stand side by side from the beginning of a text to its end.
Which of several ends a match has does not matter for that, nor what was tried
before: it is enough that there is one.

So what is shown of an expression here is only that some match starts at a
place. Where an expression takes one character of a set at least once, it is
enough to look at the first character, and in front of it may stand whatever
can be left out.

## Main definitions

* `Regex.Matches`: Whether some match starts at a place.

## Theorems

* `Regex.matches_of_mem_alternatives`: Where an alternative matches, the expression does.
* `Regex.matches_many`: A repetition of a set matches where its first character is.
* `Regex.mem_ends_many`, `Regex.ends_many_refused`: A repetition that may be left out.
* `Regex.findAll_covers`: The matches put together are the text.
-/

namespace Subword

namespace Regex

open Cursor

variable {bound : Nat} {r s : Regex} {c d : Cursor}

/-- Whether some match of an expression starts at a place. -/
def Matches (bound : Nat) (r : Regex) (c : Cursor) : Prop :=
  ∃ d, d ∈ (ends bound r c).toList

/-! ## Where a match starts -/

theorem Matches.seq (hd : d ∈ (ends bound r c).toList) (h : Matches bound s d) :
    Matches bound (.seq r s) c := by
  rcases h with ⟨e, he⟩
  refine ⟨e, ?_⟩
  rw [ends, Ends.toList_bind, List.mem_flatMap]
  exact ⟨d, hd, he⟩

/-- Where one of its alternatives matches, an expression does. -/
theorem matches_of_mem_alternatives {a : Regex} (h : Matches bound a c) (r : Regex) :
    a ∈ r.alternatives → Matches bound r c := by
  rcases h with ⟨d, hd⟩
  induction r with
  | alt r s ihr ihs =>
    intro hmem
    rw [alternatives, List.mem_append] at hmem
    rcases hmem with hmem | hmem
    · rcases ihr hmem with ⟨e, he⟩
      refine ⟨e, ?_⟩
      rw [ends, Ends.toList_append]
      exact List.mem_append_left _ he
    · rcases ihs hmem with ⟨e, he⟩
      refine ⟨e, ?_⟩
      rw [ends, Ends.toList_append]
      exact List.mem_append_right _ he
  | _ =>
    -- Any other expression is its own only alternative.
    intro hmem
    rw [alternatives, List.mem_singleton] at hmem
    · exact ⟨d, hmem ▸ hd⟩
    · exact fun _ _ h => Regex.noConfusion h

/-! ## Repetitions of one set -/

section Set

variable {caseless : Bool} {set : CharSet} {counts : Counts} {x : Char} {rest : List Char}
  {passed : Nat}

theorem matches_one (hx : set.accepts caseless x = true) :
    Matches bound (one caseless set) ⟨x :: rest, passed⟩ := by
  refine ⟨⟨rest, passed + 1⟩, ?_⟩
  rw [ends, step?]
  dsimp only
  rw [if_pos hx]
  exact List.mem_singleton_self _

/-- The last place that a walk comes to lies behind its beginning. -/
theorem exists_walkOnto (rest : List Char) : ∀ (count : Nat) (done : List Cursor) (passed : Nat),
    ∃ d more, walkOnto caseless set counts count done passed rest = d :: more ∧
      Takes 0 ⟨rest, passed⟩ d := by
  induction rest with
  | nil => exact fun count done passed => ⟨_, _, rfl, Takes.refl _⟩
  | cons x rest ih =>
    intro count done passed
    rw [walkOnto]
    split
    · rcases ih (count + 1) (⟨x :: rest, passed⟩ :: done) (passed + 1) with ⟨d, more, hwalk, h⟩
      exact ⟨d, more, hwalk, ((Takes.one x rest passed).trans h).mono (by omega)⟩
    · exact ⟨_, _, rfl, Takes.refl _⟩

/-- A walk keeps the places in front of it, and the one where it begins. -/
theorem mem_walkOnto (rest : List Char) : ∀ (count : Nat) (done : List Cursor) (passed : Nat),
    ∀ d ∈ (⟨rest, passed⟩ :: done : List Cursor),
      d ∈ walkOnto caseless set counts count done passed rest := by
  induction rest with
  | nil => exact fun count done passed d h => h
  | cons x rest ih =>
    intro count done passed d h
    rw [walkOnto]
    split
    · exact ih _ _ _ d (List.mem_cons_of_mem _ h)
    · exact h

/-- Every mode allows the last place of a walk or the first, so it allows some. -/
theorem exists_mem_order {places : List Cursor} (mode : Mode) (h : d ∈ places) :
    ∃ e, e ∈ (mode.order places).toList := by
  cases mode with
  | greedy => exact ⟨d, by rwa [Mode.order, Ends.toList_ofList]⟩
  | reluctant => exact ⟨d, by rwa [Mode.order, Ends.toList_ofList, List.mem_reverse]⟩
  | possessive =>
    cases places with
    | nil => cases h
    | cons e places => exact ⟨e, List.mem_singleton_self e⟩

/-- A repetition of a set matches where its first character is, if that one is enough. -/
theorem matches_many (hx : set.accepts caseless x = true) (hleast : counts.least ≤ 1)
    (hmore : counts.allowsMore 0 = true) :
    Matches bound (many counts (one caseless set)) ⟨x :: rest, passed⟩ := by
  have hsome : ∃ d more, walkOnto caseless set counts 1 [⟨x :: rest, passed⟩] (passed + 1) rest
      = d :: more ∧ Takes 0 ⟨rest, passed + 1⟩ d := exists_walkOnto rest 1 _ (passed + 1)
  rcases hsome with ⟨d, more, hwalk, htakes⟩
  -- The first character is taken, so the walk goes at least as far as is required.
  have hfar : passed + counts.least ≤ d.passed := by
    have hle := htakes.passed_le
    dsimp only at hle
    omega
  have hmem : d ∈ walk caseless set counts ⟨x :: rest, passed⟩ := by
    have hstep : walkOnto caseless set counts 0 [] passed (x :: rest) = d :: more := by
      rw [walkOnto, hmore, hx, Bool.and_self, if_pos rfl]
      exact hwalk
    unfold walk
    dsimp only
    rw [hstep, List.takeWhile_cons, if_pos (decide_eq_true hfar)]
    exact List.mem_cons_self
  exact exists_mem_order counts.mode hmem

/-- A repetition that may be left out can end at every place of its walk. -/
theorem walk_eq (hleast : counts.least = 0) (c : Cursor) :
    walk caseless set counts c = walkOnto caseless set counts 0 [] c.passed c.rest := by
  unfold walk
  rw [List.takeWhile_eq_self_iff]
  intro d hd
  rcases takes_walkOnto c.rest 0 [] c.passed hd with hnil | htakes
  · cases hnil
  · rw [hleast]
    exact decide_eq_true htakes.passed_le

/-- A greedy repetition that may be left out can end where it begins. -/
theorem mem_ends_many (hleast : counts.least = 0) (hmode : counts.mode = .greedy) (c : Cursor) :
    c ∈ (ends bound (many counts (one caseless set)) c).toList := by
  rw [ends, walk_eq hleast, hmode, Mode.order, Ends.toList_ofList]
  exact mem_walkOnto c.rest 0 [] c.passed c List.mem_cons_self

/-- In front of a character that it refuses, a repetition that may be left out is. -/
theorem ends_many_refused (hx : set.accepts caseless x = false) (hleast : counts.least = 0) :
    (ends bound (many counts (one caseless set)) ⟨x :: rest, passed⟩).toList
      = [⟨x :: rest, passed⟩] := by
  have hwalk : walkOnto caseless set counts 0 [] passed (x :: rest) = [⟨x :: rest, passed⟩] := by
    rw [walkOnto, hx, Bool.and_false, if_neg Bool.false_ne_true]
  rw [ends, walk_eq hleast, hwalk]
  cases counts.mode <;> rfl

end Set

/-! ## Successive matches -/

/-- If no match is empty, one is found wherever some match starts. -/
theorem exists_matchAt (hshort : 0 < r.shortest) (h : Matches bound r c) (mustAdvance : Bool) :
    ∃ d, matchAt bound r mustAdvance c = some d ∧ Takes 1 c d := by
  rcases h with ⟨e, he⟩
  have htakes : ∀ d ∈ (ends bound r c).toList, Takes 1 c d := fun d hd =>
    (takes_ends bound r c d hd).mono hshort
  have hadvances : ∀ d ∈ (ends bound r c).toList,
      (!(mustAdvance && decide (d.passed = c.passed))) = true := by
    intro d hd
    have hlt := (htakes d hd).passed_le
    rw [decide_eq_false (by omega), Bool.and_false, Bool.not_false]
  cases hmatch : matchAt bound r mustAdvance c with
  | none =>
    unfold matchAt at hmatch
    rw [Ends.find?_eq, List.find?_eq_none] at hmatch
    exact absurd (hadvances e he) (hmatch e he)
  | some d =>
    refine ⟨d, rfl, htakes d ?_⟩
    unfold matchAt at hmatch
    rw [Ends.find?_eq] at hmatch
    exact List.mem_of_find?_eq_some hmatch

/-- If no match is empty, none is found at the end. -/
theorem matchAt_end (hshort : 0 < r.shortest) (mustAdvance : Bool) (hrest : c.rest = []) :
    matchAt bound r mustAdvance c = none := by
  unfold matchAt
  rw [Ends.find?_eq, List.find?_eq_none]
  intro d hd
  have hlength := (takes_ends bound r c d hd).length_rest
  rw [hrest, List.length_nil] at hlength
  omega

/-- The matches from a place on stand side by side up to the end. Each takes a character, so
    there are no more of them than characters. -/
theorem findOnto_covers (hshort : 0 < r.shortest)
    (htotal : ∀ c : Cursor, c.rest ≠ [] → Matches bound r c) (steps : Nat) :
    ∀ (done : List (List Char)) (mustAdvance : Bool) (c : Cursor), c.rest.length < steps →
      ∃ found, findOnto bound r none steps done mustAdvance c = done.reverse ++ found ∧
        found.flatten = c.rest ∧ ∀ chunk ∈ found, chunk ≠ [] := by
  induction steps with
  | zero =>
    intro done mustAdvance c hlt
    omega
  | succ steps ih =>
    intro done mustAdvance c hlt
    have hopens : opens none c = true := by
      unfold opens
      rfl
    rw [findOnto, hopens, if_pos rfl]
    -- At the end nothing matches. Anywhere else the flag makes no difference, since every match
    -- advances.
    by_cases hrest : c.rest = []
    · rw [matchAt_end hshort mustAdvance hrest, hrest]
      refine ⟨[], (List.append_nil _).symm, rfl, ?_⟩
      intro chunk hmem
      cases hmem
    · rcases exists_matchAt hshort (htotal c hrest) mustAdvance with ⟨d, hmatch, htakes⟩
      have hlength := htakes.length_rest
      rcases ih (c.between d :: done) (decide (d.passed = c.passed)) d (by omega) with
        ⟨found, hfound, hflatten, hne⟩
      rw [hmatch]
      refine ⟨c.between d :: found, ?_, ?_, ?_⟩
      · dsimp only
        rw [hfound, List.reverse_cons, List.append_assoc, List.singleton_append]
      · rw [List.flatten_cons, hflatten, htakes.between_append]
      · intro chunk hmem
        rcases List.mem_cons.1 hmem with rfl | hmem
        · exact htakes.between_ne_nil
        · exact hne chunk hmem

/-- If no match is empty and one starts wherever a character is left, the matches put together
    are the text. -/
theorem findAll_covers (hgate : r.gate? = none) (hshort : 0 < r.shortest)
    (htotal : ∀ (bound : Nat) (c : Cursor), c.rest ≠ [] → Matches bound r c) (text : List Char) :
    (∀ chunk ∈ r.findAll text, chunk ≠ []) ∧ (r.findAll text).flatten = text := by
  rcases findOnto_covers hshort (htotal text.length) (2 * text.length + 2)
    [] false (Cursor.ofText text) (by dsimp only [Cursor.ofText]; omega) with
    ⟨found, hfound, hflatten, hne⟩
  have hall : r.findAll text = found := by
    rw [findAll, hgate, hfound, List.reverse_nil, List.nil_append]
  rw [hall]
  exact ⟨hne, hflatten⟩

end Regex

end Subword
