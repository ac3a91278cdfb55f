import Mathlib.Data.List.Basic
import Subword.Proofs.Regex.Matching

/-!
# Searches that only look ahead

A place of a text says how many characters are in front of it. An expression
made of sets, their repetitions, sequences and alternatives does not look at
that number, and it does not look behind what it takes. So the matches found
from a place on are those of the rest of the text, taken as a text of its own,
whatever was found before.

That turns a search into a recursion on the text. Where nothing matches at the
beginning, the matches of a text are those of the rest behind its first
character; otherwise they are the match at the beginning and the matches behind
it. This is shown for expressions that take a character wherever they match, so
that no match has to be tried twice at one place.

## Main definitions

* `Regex.Cursor.shift`: A place with more characters in front.
* `Regex.isFlat`: Whether an expression is made of sets and their repetitions.
* `Regex.Forward`: Expressions whose searches only look ahead.
* `Regex.firstEnd?`: The end of the match at the beginning of a text.

## Theorems

* `Regex.ends_shift`: What is in front of a place does not matter.
* `Regex.findAll_of_none`, `Regex.findAll_of_some`: A search, one step at a time.
* `Regex.firstEnd?_alt`, `Regex.firstEnd?_one`, `Regex.firstEnd?_plus`: The first match of an
  expression.
-/

namespace Subword

namespace Regex

open Cursor

variable {bound : Nat} {r s : Regex} {c d : Cursor}

/-- A place with more characters in front. -/
def Cursor.shift (count : Nat) (c : Cursor) : Cursor :=
  ⟨c.rest, c.passed + count⟩

/-- Whether an expression is made of sets, their repetitions, sequences and alternatives. -/
def isFlat : Regex → Bool
  | empty => true
  | one _ _ => true
  | seq r s => r.isFlat && s.isFlat
  | alt r s => r.isFlat && s.isFlat
  | many _ (one _ _) => true
  | _ => false

/-! ## What is in front of a place -/

section Set

variable {caseless : Bool} {set : CharSet} {counts : Counts}

theorem step?_shift (count : Nat) (c : Cursor) :
    step? caseless set (c.shift count) = (step? caseless set c).map (shift count) := by
  rcases c with ⟨_ | ⟨x, rest⟩, passed⟩
  · rfl
  · simp only [step?, shift]
    split
    · simp only [Option.map_some, shift, Nat.add_right_comm]
    · rfl

theorem walkOnto_shift (count : Nat) (rest : List Char) :
    ∀ (rounds : Nat) (done : List Cursor) (passed : Nat),
      walkOnto caseless set counts rounds (done.map (shift count)) (passed + count) rest
        = (walkOnto caseless set counts rounds done passed rest).map (shift count) := by
  induction rest with
  | nil => exact fun _ _ _ => rfl
  | cons x rest ih =>
    intro rounds done passed
    rw [walkOnto, walkOnto]
    split
    · have hnext := ih (rounds + 1) (⟨x :: rest, passed⟩ :: done) (passed + 1)
      rw [List.map_cons, Nat.add_right_comm] at hnext
      exact hnext
    · rfl

theorem walk_shift (count : Nat) (c : Cursor) :
    walk caseless set counts (c.shift count)
      = (walk caseless set counts c).map (shift count) := by
  have hwalk := @walkOnto_shift caseless set counts count c.rest 0 [] c.passed
  rw [List.map_nil] at hwalk
  unfold walk
  dsimp only [shift] at hwalk ⊢
  rw [hwalk, List.takeWhile_map]
  congr 2
  funext d
  -- Both places have as many more characters in front, so which is the later one stays the same.
  have hiff : c.passed + count + counts.least ≤ d.passed + count ↔
      c.passed + counts.least ≤ d.passed := by
    omega
  simp only [Function.comp_apply, shift, hiff]

theorem order_map (mode : Mode) (f : Cursor → Cursor) (places : List Cursor) :
    (mode.order (places.map f)).toList = (mode.order places).toList.map f := by
  cases mode with
  | greedy => simp only [Mode.order, Ends.toList_ofList]
  | reluctant => simp only [Mode.order, Ends.toList_ofList, List.map_reverse]
  | possessive => cases places <;> rfl

end Set

/-- What is in front of a place does not matter, and neither does the bound. -/
theorem ends_shift (hflat : r.isFlat = true) (bound other count : Nat) : ∀ c : Cursor,
    (ends bound r (c.shift count)).toList = ((ends other r c).toList).map (shift count) := by
  induction r with
  | empty => exact fun _ => rfl
  | one caseless set =>
    intro c
    rw [ends, ends, step?_shift]
    cases step? caseless set c <;> rfl
  | seq r s ihr ihs =>
    intro c
    rw [isFlat, Bool.and_eq_true] at hflat
    rw [ends, ends, Ends.toList_bind, Ends.toList_bind, ihr hflat.1, List.flatMap_map,
      List.map_flatMap]
    exact List.flatMap_congr fun d _ => ihs hflat.2 d
  | alt r s ihr ihs =>
    intro c
    rw [isFlat, Bool.and_eq_true] at hflat
    rw [ends, ends, Ends.toList_append, Ends.toList_append, ihr hflat.1, ihs hflat.2,
      List.map_append]
  | many counts r =>
    intro c
    cases r with
    | one caseless set =>
      rw [ends, ends, walk_shift, order_map]
    | _ => cases hflat
  | _ => cases hflat

/-! ## A search, one step at a time -/

/-- An expression made of sets and their repetitions that takes a character wherever it matches,
    and for which a search passes over no place. -/
structure Forward (r : Regex) : Prop where
  flat : r.isFlat = true
  advances : 0 < r.shortest
  ungated : r.gate? = none

/-- The end of the match at the beginning of a text. -/
def firstEnd? (r : Regex) (s : List Char) : Option Cursor :=
  (ends s.length r (.ofText s)).head?

theorem firstEnd?_eq (r : Regex) (s : List Char) :
    r.firstEnd? s = (ends s.length r (.ofText s)).toList.head? :=
  Ends.head?_eq _

namespace Forward

variable {x : Char} {text rest : List Char}

/-- The match at the beginning of a text takes a character. -/
theorem takes (h : r.Forward) (hd : r.firstEnd? text = some d) : Takes 1 (.ofText text) d := by
  rw [firstEnd?_eq] at hd
  exact (takes_ends _ r _ d (List.mem_of_head? hd)).mono h.advances

/-- At any place, the match is the one at the beginning of what is left. -/
theorem matchAt_eq (h : r.Forward) (bound : Nat) (mustAdvance : Bool) (text : List Char)
    (passed : Nat) : matchAt bound r mustAdvance ⟨text, passed⟩
      = (r.firstEnd? text).map (shift passed) := by
  have hplace : (⟨text, passed⟩ : Cursor) = (ofText text).shift passed := by
    rw [ofText, shift, Nat.zero_add]
  have hends := ends_shift h.flat bound text.length passed (ofText text)
  rw [← hplace] at hends
  -- Every match advances, so the first one is taken.
  have hadvances : ∀ d ∈ (ends bound r ⟨text, passed⟩).toList,
      (!(mustAdvance && decide (d.passed = passed))) = true := by
    intro d hd
    have hlt := ((takes_ends bound r _ d hd).mono h.advances).passed_le
    dsimp only at hlt
    rw [decide_eq_false (by omega), Bool.and_false, Bool.not_false]
  rw [matchAt, Ends.find?_eq, firstEnd?_eq, ← List.head?_map, ← hends]
  cases hlist : (ends bound r ⟨text, passed⟩).toList with
  | nil => rfl
  | cons d more =>
    rw [hlist] at hadvances
    exact List.find?_cons_of_pos (hadvances d List.mem_cons_self)

/-- One step of a search. -/
theorem findOnto_succ (h : r.Forward) (bound steps : Nat) (done : List (List Char))
    (mustAdvance : Bool) (text : List Char) (passed : Nat) :
    findOnto bound r none (steps + 1) done mustAdvance ⟨text, passed⟩
      = match r.firstEnd? text with
        | some d => findOnto bound r none steps (text.take d.passed :: done)
            (d.passed + passed = passed) (d.shift passed)
        | none =>
          match text with
          | [] => done.reverse
          | _ :: rest => findOnto bound r none steps done false ⟨rest, passed + 1⟩ := by
  have hopens : opens none ⟨text, passed⟩ = true := by
    unfold opens
    rfl
  rw [findOnto, hopens, if_pos rfl, h.matchAt_eq]
  cases r.firstEnd? text with
  | none => rfl
  | some d => simp only [Option.map_some, between, shift, Nat.add_sub_cancel]

/-- What a search finds is a matter of the text that is left. -/
theorem exists_found (h : r.Forward) (text : List Char) : ∃ found, ∀ steps, text.length < steps →
    ∀ bound done mustAdvance passed,
      findOnto bound r none steps done mustAdvance ⟨text, passed⟩ = done.reverse ++ found := by
  -- By the length of the text. After each step there is less of it left.
  induction hlength : text.length using Nat.strong_induction_on generalizing text with
  | _ length ih =>
    subst hlength
    cases hfirst : r.firstEnd? text with
    | none =>
      cases text with
      | nil =>
        refine ⟨[], ?_⟩
        intro steps hlt bound done mustAdvance passed
        obtain ⟨steps, rfl⟩ : ∃ k, steps = k + 1 := ⟨steps - 1, by omega⟩
        rw [h.findOnto_succ, hfirst, List.append_nil]
      | cons x rest =>
        rcases ih rest.length (Nat.lt_succ_self _) rest rfl with ⟨found, hfound⟩
        refine ⟨found, ?_⟩
        intro steps hlt bound done mustAdvance passed
        rw [List.length_cons] at hlt
        obtain ⟨steps, rfl⟩ : ∃ k, steps = k + 1 := ⟨steps - 1, by omega⟩
        rw [h.findOnto_succ, hfirst]
        exact hfound steps (by omega) _ _ _ _
    | some d =>
      have hless : d.rest.length + 1 ≤ text.length := (h.takes hfirst).length_rest
      rcases ih d.rest.length (by omega) d.rest rfl with ⟨found, hfound⟩
      refine ⟨text.take d.passed :: found, ?_⟩
      intro steps hlt bound done mustAdvance passed
      obtain ⟨steps, rfl⟩ : ∃ k, steps = k + 1 := ⟨steps - 1, by omega⟩
      rw [h.findOnto_succ, hfirst]
      dsimp only [shift]
      rw [hfound steps (by omega), List.reverse_cons, List.append_assoc, List.singleton_append]

/-- From any place on, a search finds the matches of what is left. -/
theorem findOnto_eq (h : r.Forward) {steps : Nat} (hlt : text.length < steps) (bound : Nat)
    (done : List (List Char)) (mustAdvance : Bool) (passed : Nat) :
    findOnto bound r none steps done mustAdvance ⟨text, passed⟩
      = done.reverse ++ r.findAll text := by
  rcases h.exists_found text with ⟨found, hfound⟩
  have hall : r.findAll text = found := by
    rw [findAll, h.ungated, ofText, hfound _ (by omega), List.reverse_nil, List.nil_append]
  rw [hall]
  exact hfound steps hlt bound done mustAdvance passed

/-- A search from the beginning of a text begins with one step. -/
theorem findAll_eq (h : r.Forward) (text : List Char) :
    r.findAll text = findOnto text.length r none (2 * text.length + 1 + 1) [] false ⟨text, 0⟩ := by
  rw [findAll, h.ungated]
  rfl

theorem findAll_nil (h : r.Forward) : r.findAll [] = [] := by
  have hnone : r.firstEnd? [] = none := by
    cases hfirst : r.firstEnd? [] with
    | none => rfl
    | some d => exact absurd (h.takes hfirst).length_rest (Nat.not_succ_le_zero _)
  rw [h.findAll_eq, h.findOnto_succ, hnone]
  rfl

/-- Where nothing matches at the beginning of a text, its first character is passed over. -/
theorem findAll_of_none (h : r.Forward) (hnone : r.firstEnd? (x :: rest) = none) :
    r.findAll (x :: rest) = r.findAll rest := by
  rw [h.findAll_eq, h.findOnto_succ, hnone]
  dsimp only
  rw [h.findOnto_eq (by rw [List.length_cons]; omega), List.reverse_nil, List.nil_append]

/-- Otherwise the match at the beginning comes first, and then those of the text behind it. -/
theorem findAll_of_some (h : r.Forward) (hsome : r.firstEnd? text = some d) :
    r.findAll text = text.take d.passed :: r.findAll d.rest := by
  have hless : d.rest.length + 1 ≤ text.length := (h.takes hsome).length_rest
  rw [h.findAll_eq, h.findOnto_succ, hsome]
  dsimp only [shift]
  rw [h.findOnto_eq (by omega), List.reverse_singleton, List.singleton_append]

end Forward

/-! ## The first match -/

/-- The first of two alternatives that matches. -/
theorem firstEnd?_alt (r s : Regex) (text : List Char) :
    (alt r s).firstEnd? text = (r.firstEnd? text).or (s.firstEnd? text) := by
  rw [firstEnd?_eq, firstEnd?_eq, firstEnd?_eq, ends, Ends.toList_append, List.head?_append]

section Set

variable {caseless : Bool} {set : CharSet}

theorem firstEnd?_one (caseless : Bool) (set : CharSet) (x : Char) (rest : List Char) :
    (one caseless set).firstEnd? (x :: rest)
      = if set.accepts caseless x then some ⟨rest, 1⟩ else none := by
  rw [firstEnd?, ends, ofText, step?]
  dsimp only
  by_cases hx : set.accepts caseless x = true
  · simp only [if_pos hx]
    rfl
  · simp only [if_neg hx]
    rfl

/-- A walk that no count limits ends where the first character stands that is not accepted. -/
theorem head?_walkOnto (rest : List Char) : ∀ (rounds : Nat) (done : List Cursor) (passed : Nat),
    ∃ more, walkOnto caseless set .plus rounds done passed rest
      = ⟨rest.dropWhile (set.accepts caseless),
          passed + (rest.takeWhile (set.accepts caseless)).length⟩ :: more := by
  induction rest with
  | nil => exact fun _ done _ => ⟨done, rfl⟩
  | cons x rest ih =>
    intro rounds done passed
    have hmore : Counts.plus.allowsMore rounds = true := rfl
    rw [walkOnto, hmore, Bool.true_and]
    by_cases hx : set.accepts caseless x = true
    · rcases ih (rounds + 1) (⟨x :: rest, passed⟩ :: done) (passed + 1) with ⟨more, hwalk⟩
      refine ⟨more, ?_⟩
      rw [if_pos hx, hwalk, List.dropWhile_cons_of_pos hx, List.takeWhile_cons_of_pos hx,
        List.length_cons, Nat.add_right_comm, Nat.add_assoc]
    · refine ⟨done, ?_⟩
      rw [if_neg hx, List.dropWhile_cons_of_neg hx, List.takeWhile_cons_of_neg hx,
        List.length_nil, Nat.add_zero]

/-- A repetition takes as many characters of its set as there are, if there is one. -/
theorem firstEnd?_plus (caseless : Bool) (set : CharSet) (x : Char) (rest : List Char) :
    (many .plus (one caseless set)).firstEnd? (x :: rest)
      = if set.accepts caseless x then
          some ⟨rest.dropWhile (set.accepts caseless),
            (rest.takeWhile (set.accepts caseless)).length + 1⟩
        else none := by
  rcases @head?_walkOnto caseless set (x :: rest) 0 [] 0 with ⟨more, hwalk⟩
  rw [firstEnd?_eq, ends]
  change ((Counts.plus.mode.order (walk caseless set .plus ⟨x :: rest, 0⟩)).toList).head? = _
  have hgreedy : Counts.plus.mode = .greedy := rfl
  rw [hgreedy, Mode.order, Ends.toList_ofList, walk]
  dsimp only
  rw [hwalk]
  by_cases hx : set.accepts caseless x = true
  · rw [if_pos hx, List.dropWhile_cons_of_pos hx, List.takeWhile_cons_of_pos hx,
      List.length_cons, List.takeWhile_cons_of_pos, List.head?_cons, Nat.zero_add]
    exact decide_eq_true (by dsimp only [Counts.plus]; omega)
  · rw [if_neg hx, List.takeWhile_cons_of_neg hx, List.takeWhile_cons_of_neg, List.head?_nil]
    exact Bool.not_eq_true _ ▸ decide_eq_false (by dsimp only [Counts.plus]; simp)

end Set

end Regex

end Subword
