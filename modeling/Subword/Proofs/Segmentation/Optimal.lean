import Mathlib.Algebra.BigOperators.Group.List.Basic
import Mathlib.Algebra.Order.Monoid.Unbundled.WithTop
import Mathlib.Algebra.Order.Ring.Rat
import Mathlib.Data.List.Induction
import Subword.Segmentation

/-!
# Segmentations and their totals

What the search for segmentations is measured against. Steps and their prices
are described here without any search: a step fits when it is a piece with a
price, or one character that is no piece by itself; a path spells the texts of
its steps one after the other; its total is the sum of their prices.

A text has only finitely many paths, but exponentially many of them, so nothing
here enumerates them. `Optimal` compares a path with every other path that
spells the same text. `Chosen` adds the rule for ties, and states it for every
place that the path goes through: no path to that place which is as good ends
in a longer step.

Prices are exact. The scores that go with them are the rational numbers and one
more below them all, which is the score of a place that has not been reached.

## Main definitions

* `Prices`: The prices of pieces and of unknown characters.
* `Step.Fits`: A step that may be taken.
* `spelled`, `total`: The text of a path, and its sum of prices.
* `Optimal`: No path for the same text has a greater total.
* `Chosen`: Optimal at every place, with the longest last step.
* `BestPath`: The best path for a text.

## Theorems

* `Step.Fits.eq_of_text`: A text is covered by one step in one way at most.
* `exists_path`: Every text has a path.
* `Optimal.append_le`: A step after an optimal path loses to no other front.
* `Chosen.of_append`: The front of a chosen path is chosen.
* `Chosen.bestPath`: A chosen path is the best one for its text.
-/

namespace Subword

/-- Exact scores: rational numbers, and one score below them all. -/
instance : Score (WithBot ℚ) where
  zero := 0
  lowest := ⊥
  add := (· + ·)
  lt a b := decide (a < b)
  same a b := decide (a = b)
  tenLess a := a + ((-10 : ℚ) : WithBot ℚ)

namespace Segmentation

/-- The prices of pieces, and that of an unknown character. -/
structure Prices where
  piece? : String → Option ℚ
  unknown : ℚ

/-- A step that may be taken: a piece that has a price, or one character that has none. -/
def Step.Fits (prices : Prices) : Step → Prop
  | .piece s => s ≠ [] ∧ (prices.piece? (String.ofList s)).isSome = true
  | .unknown s => ∃ c, s = [c] ∧ prices.piece? (String.ofList [c]) = none

/-- The price of a step. -/
def Step.price (prices : Prices) : Step → ℚ
  | .piece s => (prices.piece? (String.ofList s)).getD 0
  | .unknown _ => prices.unknown

/-- The text that some steps cover, one after the other. -/
def spelled (path : List Step) : List Char := path.flatMap Step.text

/-- The sum of the prices of some steps. -/
def total (prices : Prices) (path : List Step) : ℚ := (path.map (Step.price prices)).sum

/-- A path of which every step may be taken. -/
def Fit (prices : Prices) (path : List Step) : Prop := ∀ step ∈ path, step.Fits prices

/-- A path that no other path for the same text exceeds. -/
structure Optimal (prices : Prices) (path : List Step) : Prop where
  fit : Fit prices path
  total_le : ∀ other, Fit prices other → spelled other = spelled path →
    total prices other ≤ total prices path

/-- A path that is optimal up to each of its places, and whose step that ends there is the
    longest last step of all optimal paths to that place. -/
inductive Chosen (prices : Prices) : List Step → Prop
  | nil : Chosen prices []
  | snoc {path : List Step} {step : Step} (front : Chosen prices path)
      (fits : step.Fits prices)
      (best : ∀ other last, Fit prices (other ++ [last]) →
        spelled (other ++ [last]) = spelled (path ++ [step]) →
        total prices (other ++ [last]) ≤ total prices (path ++ [step]) ∧
          (total prices (other ++ [last]) = total prices (path ++ [step]) →
            last.text.length ≤ step.text.length)) :
      Chosen prices (path ++ [step])

/-- The best path for a text: every step may be taken, the steps cover the text, no other path
    for it has a greater total, and at each place the last step is the longest of those that end
    the optimal paths to that place. -/
structure BestPath (prices : Prices) (s : List Char) (path : List Step) : Prop where
  fit : Fit prices path
  spelled_eq : spelled path = s
  total_le : ∀ other, Fit prices other → spelled other = s →
    total prices other ≤ total prices path
  optimal_to : ∀ front step back, path = front ++ step :: back → Optimal prices (front ++ [step])
  length_le : ∀ front step back, path = front ++ step :: back → ∀ other last,
    Optimal prices (other ++ [last]) → spelled (other ++ [last]) = spelled (front ++ [step]) →
    last.text.length ≤ step.text.length

variable {prices : Prices}

@[simp] theorem spelled_nil : spelled [] = [] := rfl

@[simp] theorem spelled_append (p q : List Step) : spelled (p ++ q) = spelled p ++ spelled q := by
  simp only [spelled, List.flatMap_append]

@[simp] theorem spelled_cons (step : Step) (p : List Step) :
    spelled (step :: p) = step.text ++ spelled p := by
  simp only [spelled, List.flatMap_cons]

theorem spelled_snoc (p : List Step) (step : Step) :
    spelled (p ++ [step]) = spelled p ++ step.text := by
  rw [spelled_append, spelled_cons, spelled_nil, List.append_nil]

theorem total_snoc (p : List Step) (step : Step) :
    total prices (p ++ [step]) = total prices p + step.price prices := by
  simp only [total, List.map_append, List.map_cons, List.map_nil, List.sum_append,
    List.sum_cons, List.sum_nil, add_zero]

theorem fit_append {p q : List Step} : Fit prices (p ++ q) ↔ Fit prices p ∧ Fit prices q := by
  simp only [Fit, List.forall_mem_append]

theorem fit_singleton {step : Step} : Fit prices [step] ↔ step.Fits prices := by
  simp only [Fit, List.forall_mem_singleton]

/-- A step that may be taken covers something. -/
theorem Step.Fits.text_ne_nil {step : Step} (h : step.Fits prices) : step.text ≠ [] := by
  cases step with
  | piece s => exact h.1
  | unknown s =>
    rcases h with ⟨c, rfl, _⟩
    exact List.cons_ne_nil c []

/-- A text is covered by one step in one way at most. -/
theorem Step.Fits.eq_of_text {a b : Step} (ha : a.Fits prices) (hb : b.Fits prices)
    (h : a.text = b.text) : a = b := by
  cases a with
  | piece s =>
    cases b with
    | piece t => exact congrArg Step.piece h
    | unknown t =>
      -- A character is unknown only when it is no piece.
      rcases hb with ⟨c, rfl, hnone⟩
      have hs : s = [c] := h
      rw [hs] at ha
      rw [Step.Fits, hnone] at ha
      exact absurd ha.2 Bool.false_ne_true
  | unknown s =>
    cases b with
    | piece t =>
      rcases ha with ⟨c, rfl, hnone⟩
      have ht : t = [c] := h.symm
      rw [ht] at hb
      rw [Step.Fits, hnone] at hb
      exact absurd hb.2 Bool.false_ne_true
    | unknown t => exact congrArg Step.unknown h

/-- One character can always be covered. -/
theorem exists_step (prices : Prices) (c : Char) :
    ∃ step : Step, step.Fits prices ∧ step.text = [c] := by
  cases h : prices.piece? (String.ofList [c]) with
  | none => exact ⟨.unknown [c], ⟨c, rfl, h⟩, rfl⟩
  | some x =>
    refine ⟨.piece [c], ⟨List.cons_ne_nil c [], ?_⟩, rfl⟩
    rw [h]
    rfl

/-- Every text has a path. -/
theorem exists_path (prices : Prices) (s : List Char) :
    ∃ path, Fit prices path ∧ spelled path = s := by
  induction s with
  | nil => exact ⟨[], fun step h => absurd h List.not_mem_nil, rfl⟩
  | cons c rest ih =>
    rcases ih with ⟨path, hfit, hspelled⟩
    rcases exists_step prices c with ⟨step, hstep, htext⟩
    refine ⟨step :: path, ?_, ?_⟩
    · exact List.forall_mem_cons.2 ⟨hstep, hfit⟩
    · rw [spelled_cons, htext, hspelled, List.singleton_append]

/-- A step after an optimal path loses to no other front with the same step. -/
theorem Optimal.append_le {path other : List Step} {step : Step} (h : Optimal prices path)
    (hfit : Fit prices other) (hspelled : spelled other = spelled path) :
    total prices (other ++ [step]) ≤ total prices (path ++ [step]) := by
  rw [total_snoc, total_snoc]
  exact add_le_add_left (h.total_le other hfit hspelled) _

/-- Optimal paths for the same text have the same total. -/
theorem Optimal.total_eq {p q : List Step} (hp : Optimal prices p) (hq : Optimal prices q)
    (h : spelled p = spelled q) : total prices p = total prices q :=
  le_antisymm (hq.total_le p hp.fit h) (hp.total_le q hq.fit h.symm)

theorem Chosen.fit {path : List Step} (h : Chosen prices path) : Fit prices path := by
  induction h with
  | nil => exact fun step h => absurd h List.not_mem_nil
  | snoc _ fits _ ih => exact fit_append.2 ⟨ih, fit_singleton.2 fits⟩

/-- A path that spells nothing has no steps. -/
theorem Fit.eq_nil {path : List Step} (h : Fit prices path) (hs : spelled path = []) :
    path = [] := by
  cases path with
  | nil => rfl
  | cons step rest =>
    rw [spelled_cons] at hs
    exact absurd (List.append_eq_nil_iff.1 hs).1 (h step List.mem_cons_self).text_ne_nil

/-- A path that spells something has a last step. -/
theorem exists_snoc {path : List Step} (hs : spelled path ≠ []) :
    ∃ front last, path = front ++ [last] := by
  have hne : path ≠ [] := by
    intro h
    rw [h] at hs
    exact hs rfl
  exact ⟨path.dropLast, path.getLast hne, (List.dropLast_append_getLast hne).symm⟩

theorem Chosen.optimal {path : List Step} (h : Chosen prices path) : Optimal prices path := by
  refine ⟨h.fit, ?_⟩
  intro other hother hspelled
  cases h with
  | nil =>
    rw [hother.eq_nil hspelled]
  | snoc front fits best =>
    have hne : spelled other ≠ [] := by
      rw [hspelled, spelled_append, spelled_cons]
      intro hnil
      exact fits.text_ne_nil (List.append_eq_nil_iff.1 (List.append_eq_nil_iff.1 hnil).2).1
    rcases exists_snoc hne with ⟨others, last, rfl⟩
    exact (best others last hother hspelled).1

/-- What a chosen path says about its last step. -/
theorem Chosen.last {front : List Step} {step : Step} (h : Chosen prices (front ++ [step])) :
    Chosen prices front ∧ ∀ other last, Fit prices (other ++ [last]) →
      spelled (other ++ [last]) = spelled (front ++ [step]) →
      total prices (other ++ [last]) = total prices (front ++ [step]) →
        last.text.length ≤ step.text.length := by
  generalize hp : front ++ [step] = path at h
  cases h with
  | nil => exact absurd hp (List.append_ne_nil_of_right_ne_nil _ (List.cons_ne_nil _ _))
  | snoc hfront _ best =>
    rcases List.append_inj' hp rfl with ⟨rfl, hstep⟩
    rcases List.singleton_inj.1 hstep
    exact ⟨hfront, fun other last hfit hs => (best other last hfit hs).2⟩

/-- The front of a chosen path is chosen. -/
theorem Chosen.of_append {front back : List Step} (h : Chosen prices (front ++ back)) :
    Chosen prices front := by
  induction back using List.reverseRecOn with
  | nil => rwa [List.append_nil] at h
  | append_singleton back step ih =>
    rw [← List.append_assoc] at h
    exact ih h.last.1

/-- The step at a place of a chosen path is the longest of those that end optimal paths. -/
theorem Chosen.length_le {front other : List Step} {step last : Step}
    (h : Chosen prices (front ++ [step])) (ho : Optimal prices (other ++ [last]))
    (hs : spelled (other ++ [last]) = spelled (front ++ [step])) :
    last.text.length ≤ step.text.length :=
  h.last.2 other last ho.fit hs (ho.total_eq h.optimal hs)

/-- A chosen path is the best one for its text. -/
theorem Chosen.bestPath {path : List Step} (h : Chosen prices path) :
    BestPath prices (spelled path) path := by
  have hfront : ∀ front step back, path = front ++ step :: back →
      Chosen prices (front ++ [step]) := by
    rintro front step back rfl
    rw [List.append_cons] at h
    exact h.of_append
  refine ⟨h.fit, rfl, h.optimal.total_le, ?_, ?_⟩
  · intro front step back hpath
    exact (hfront front step back hpath).optimal
  · intro front step back hpath other last hother hs
    exact (hfront front step back hpath).length_le hother hs

end Segmentation

end Subword
