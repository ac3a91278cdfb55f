import Mathlib.Tactic.Linarith
import Subword.Proofs.Segmentation.Optimal
import Subword.Proofs.Segmentation.Sweep

/-!
# What the cells of the search hold

The search moves along the text and keeps a row of cells for the places ahead.
A cell ahead is not settled yet: it knows only the steps that begin before the
present place. `CellFor` says so with a bound, the place before which the last
step has to begin. Going through one place raises the bound by one, and a cell
is settled when the bound has come up to it.

Only one new way to end a text comes in when the bound is raised: an optimal
path to the present place and then the one step that covers what is left. That
way is shorter in its last step than all that were known, so a tie never
replaces what a cell holds, although the search asks for the length in a tie.

The row is as long as the longest piece. A cell that comes in at its far end is
fresh, and rightly so: no step that begins before the present place is long
enough to reach it.

## Main definitions

* `Agrees`: Scores of choices that are exact prices.
* `Ending`: A way to end a text with a step that begins before a place.
* `CellFor`: What a cell holds, for steps that begin before a place.
* `Settled`: What a cell holds when its place is reached.

## Theorems

* `CellFor.offer`: A new step that covers the rest keeps a cell right.
* `CellFor.skip`: Where no step covers the rest, a cell stays right.
* `advances_cellFor`: Steps from an optimal path raise the bound of the cells ahead.
* `invariant_cellFor`: All cells of a search are right.
* `lasts_for`: The search leaves the last step of a best path for each place.
-/

namespace Subword

namespace Segmentation

variable {prices : Prices} {choices : Choices (WithBot ℚ)}

/-- Choices whose scores are exact prices, and whose bound on the length of pieces is one. -/
structure Agrees (choices : Choices (WithBot ℚ)) (prices : Prices) : Prop where
  score?_eq : ∀ piece, choices.score? piece = (prices.piece? piece).map (↑)
  unknown_eq : choices.unknown = (prices.unknown : WithBot ℚ)
  length_le : ∀ piece x, prices.piece? piece = some x → piece.length ≤ choices.longest
  one_le : 1 ≤ choices.longest

/-- A way to end a text: a path for it whose last step begins before a given place. -/
structure Ending (prices : Prices) (place : Nat) (s : List Char) (front : List Step)
    (step : Step) : Prop where
  fit : Fit prices (front ++ [step])
  spelled_eq : spelled (front ++ [step]) = s
  before : (spelled front).length < place

/-- What a cell remembers of a step. -/
def Last.ofStep : Step → Last
  | .piece s => .piece s.length
  | .unknown _ => .unknown

/-- The cell for a text that knows the steps which begin before a given place: fresh when there
    are none, and else the best way to end the text, with the longest step among the best. -/
inductive CellFor (prices : Prices) (place : Nat) (s : List Char) : Cell (WithBot ℚ) → Prop
  | fresh (none : ∀ front step, ¬ Ending prices place s front step) :
      CellFor prices place s Cell.fresh
  | reached {front : List Step} {step : Step} (ending : Ending prices place s front step)
      (best : ∀ other last, Ending prices place s other last →
        total prices (other ++ [last]) ≤ total prices (front ++ [step]) ∧
          (total prices (other ++ [last]) = total prices (front ++ [step]) →
            last.text.length ≤ step.text.length)) :
      CellFor prices place s ⟨(total prices (front ++ [step]) : ℚ), Last.ofStep step⟩

/-- The cell for a text when its place is reached. In front of the first character nothing has
    been chosen, and the score is that of the empty path. -/
def Settled (prices : Prices) (s : List Char) (cell : Cell (WithBot ℚ)) : Prop :=
  s = [] ∧ cell = ⟨Score.zero, .unreached⟩ ∨ s ≠ [] ∧ CellFor prices s.length s cell

theorem Last.length_ofStep {step : Step} (h : step.Fits prices) :
    (Last.ofStep step).length = step.text.length := by
  cases step with
  | piece _ => rfl
  | unknown _ =>
    rcases h with ⟨_, rfl, _⟩
    rfl

/-- No step is longer than the longest piece. -/
theorem Agrees.text_le {step : Step} (h : Agrees choices prices) (hs : step.Fits prices) :
    step.text.length ≤ choices.longest := by
  cases step with
  | piece s =>
    rcases Option.isSome_iff_exists.1 hs.2 with ⟨x, hx⟩
    have hle := h.length_le _ x hx
    rwa [String.length_ofList] at hle
  | unknown s =>
    rcases hs with ⟨c, rfl, _⟩
    exact h.one_le

/-! ## One cell -/

/-- A way that the next place brings in either was known or has its last step just there. -/
theorem Ending.cases_succ {front path : List Step} {step : Step} {w : List Char}
    (h : Ending prices ((spelled path).length + 1) (spelled path ++ w) front step) :
    Ending prices (spelled path).length (spelled path ++ w) front step ∨
      Fit prices front ∧ spelled front = spelled path ∧ step.Fits prices ∧ step.text = w := by
  by_cases hlt : (spelled front).length < (spelled path).length
  · exact Or.inl ⟨h.fit, h.spelled_eq, hlt⟩
  · right
    have heq := h.spelled_eq
    have hlen : (spelled front).length = (spelled path).length := by
      have := h.before
      omega
    rw [spelled_snoc] at heq
    rcases List.append_inj heq hlen with ⟨hfront, hstep⟩
    have hfit := fit_append.1 h.fit
    exact ⟨hfit.1, hfront, fit_singleton.1 hfit.2, hstep⟩

/-- A way that was known is still one. -/
theorem Ending.mono {place more : Nat} {s : List Char} {front : List Step} {step : Step}
    (h : Ending prices place s front step) (hle : place ≤ more) :
    Ending prices more s front step :=
  ⟨h.fit, h.spelled_eq, Nat.lt_of_lt_of_le h.before hle⟩

/-- Of two ways to end a text, the one whose last step begins earlier has the longer step. -/
theorem Ending.lt_length {place : Nat} {path front : List Step} {step : Step} {w : List Char}
    (h : Ending prices place (spelled path ++ w) front step)
    (hle : place ≤ (spelled path).length) : w.length < step.text.length := by
  have hlen := congrArg List.length h.spelled_eq
  rw [spelled_snoc, List.length_append, List.length_append] at hlen
  have := h.before
  omega

/-- A cell after a way to end its text has been offered. -/
def Cell.offer (cell : Cell (WithBot ℚ)) (score : ℚ) (last : Last) : Cell (WithBot ℚ) :=
  if cell.best < (score : WithBot ℚ) then ⟨(score : ℚ), last⟩ else cell

/-- Where no step covers what is left, the next place brings in nothing. -/
theorem CellFor.skip {path : List Step} {w : List Char} {cell : Cell (WithBot ℚ)}
    (hcell : CellFor prices (spelled path).length (spelled path ++ w) cell)
    (hnone : ∀ step : Step, step.Fits prices → step.text ≠ w) :
    CellFor prices ((spelled path).length + 1) (spelled path ++ w) cell := by
  -- The new way would need a step for what is left.
  have hold : ∀ front step,
      Ending prices ((spelled path).length + 1) (spelled path ++ w) front step →
        Ending prices (spelled path).length (spelled path ++ w) front step := by
    intro front step h
    rcases h.cases_succ with h | ⟨_, _, hfits, htext⟩
    · exact h
    · exact absurd htext (hnone step hfits)
  cases hcell with
  | fresh none => exact .fresh fun front step h => none front step (hold front step h)
  | reached ending best =>
    exact .reached (ending.mono (Nat.le_succ _)) fun other last h =>
      best other last (hold other last h)

/-- An optimal path and a step that covers what is left keep a cell right. -/
theorem CellFor.offer {path : List Step} {step : Step} {cell : Cell (WithBot ℚ)}
    (hcell : CellFor prices (spelled path).length (spelled path ++ step.text) cell)
    (hpath : Optimal prices path) (hstep : step.Fits prices) :
    CellFor prices ((spelled path).length + 1) (spelled path ++ step.text)
      (cell.offer (total prices (path ++ [step])) (Last.ofStep step)) := by
  have hnew : Ending prices ((spelled path).length + 1) (spelled path ++ step.text) path step := by
    refine ⟨fit_append.2 ⟨hpath.fit, fit_singleton.2 hstep⟩, ?_, Nat.lt_succ_self _⟩
    rw [spelled_snoc]
  -- What is not known yet ends in the same step, after a front that is no better.
  have hcases : ∀ other last,
      Ending prices ((spelled path).length + 1) (spelled path ++ step.text) other last →
        Ending prices (spelled path).length (spelled path ++ step.text) other last ∨
          last = step ∧ total prices (other ++ [last]) ≤ total prices (path ++ [step]) := by
    intro other last h
    rcases h.cases_succ with h | ⟨hfit, hspelled, hfits, htext⟩
    · exact Or.inl h
    · rcases hfits.eq_of_text hstep htext
      exact Or.inr ⟨rfl, hpath.append_le hfit hspelled⟩
  unfold Cell.offer
  cases hcell with
  | fresh none =>
    have hlt : (Cell.fresh : Cell (WithBot ℚ)).best < (total prices (path ++ [step]) : ℚ) :=
      WithBot.bot_lt_coe _
    rw [if_pos hlt]
    refine .reached hnew fun other last h => ?_
    rcases hcases other last h with h | ⟨rfl, hle⟩
    · exact absurd h (none other last)
    · exact ⟨hle, fun _ => Nat.le_refl _⟩
  | @reached front known ending best =>
    by_cases hlt : total prices (front ++ [known]) < total prices (path ++ [step])
    · rw [if_pos (WithBot.coe_lt_coe.2 hlt)]
      refine .reached hnew fun other last h => ?_
      rcases hcases other last h with h | ⟨rfl, hle⟩
      · have := (best other last h).1
        exact ⟨by linarith, fun heq => by linarith⟩
      · exact ⟨hle, fun _ => Nat.le_refl _⟩
    · rw [if_neg (fun h => hlt (WithBot.coe_lt_coe.1 h))]
      refine .reached (ending.mono (Nat.le_succ _)) fun other last h => ?_
      rcases hcases other last h with h | ⟨rfl, hle⟩
      · exact best other last h
      · -- The step that was known begins earlier, so it is the longer one.
        have hlen := ending.lt_length (Nat.le_refl _)
        exact ⟨by linarith, fun _ => Nat.le_of_lt hlen⟩

/-- A tie is never won by a new piece, because what is known is longer. -/
theorem CellFor.offerPiece_eq {place : Nat} {path : List Step} {w : List Char}
    {cell : Cell (WithBot ℚ)} (hcell : CellFor prices place (spelled path ++ w) cell)
    (hle : place ≤ (spelled path).length) (score : ℚ) :
    cell.offerPiece (score : WithBot ℚ) w.length = cell.offer score (.piece w.length) := by
  have htie : (Score.same (score : WithBot ℚ) cell.best && decide (cell.last.length < w.length))
      = false := by
    cases hcell with
    | fresh _ => rfl
    | @reached front step ending _ =>
      have hlen := ending.lt_length hle
      have hstep := fit_singleton.1 (fit_append.1 ending.fit).2
      rw [Bool.and_eq_false_iff]
      right
      rw [decide_eq_false_iff_not, Last.length_ofStep hstep]
      omega
  unfold Cell.offerPiece Cell.offer
  rw [htie, Bool.or_false]
  simp only [Score.lt, decide_eq_true_eq]

/-- A piece that covers what is left, tried after an optimal path. -/
theorem CellFor.offerPiece {path : List Step} {w : List Char} {x : ℚ} {cell : Cell (WithBot ℚ)}
    (hcell : CellFor prices (spelled path).length (spelled path ++ w) cell)
    (hpath : Optimal prices path) (hw : w ≠ [])
    (hp : prices.piece? (String.ofList w) = some x) :
    CellFor prices ((spelled path).length + 1) (spelled path ++ w)
      (cell.offerPiece (Score.add (total prices path : WithBot ℚ) (x : WithBot ℚ)) w.length) := by
  have hfits : (Step.piece w).Fits prices := ⟨hw, by rw [hp]; rfl⟩
  have hscore : Score.add (total prices path : WithBot ℚ) (x : WithBot ℚ)
      = ((total prices (path ++ [.piece w]) : ℚ) : WithBot ℚ) := by
    rw [total_snoc, Step.price, hp, Option.getD_some]
    rfl
  rw [hscore, hcell.offerPiece_eq (Nat.le_refl _)]
  exact @CellFor.offer prices path (.piece w) cell hcell hpath hfits

/-- An unknown character, tried after an optimal path. -/
theorem CellFor.offerUnknown {path : List Step} {c : Char} {cell : Cell (WithBot ℚ)}
    (hcell : CellFor prices (spelled path).length (spelled path ++ [c]) cell)
    (hpath : Optimal prices path) (hp : prices.piece? (String.ofList [c]) = none) :
    CellFor prices ((spelled path).length + 1) (spelled path ++ [c])
      (cell.offerUnknown
        (Score.add (total prices path : WithBot ℚ) (prices.unknown : WithBot ℚ))) := by
  have hfits : (Step.unknown [c]).Fits prices := ⟨c, rfl, hp⟩
  have hscore : Score.add (total prices path : WithBot ℚ) (prices.unknown : WithBot ℚ)
      = ((total prices (path ++ [.unknown [c]]) : ℚ) : WithBot ℚ) := by
    rw [total_snoc, Step.price]
    rfl
  have hoffer := @CellFor.offer prices path (.unknown [c]) cell hcell hpath hfits
  unfold Cell.offer at hoffer
  unfold Cell.offerUnknown
  rw [hscore]
  simp only [Score.lt, decide_eq_true_eq]
  exact hoffer

/-- No step covers several characters that are no piece. -/
theorem Step.Fits.text_ne {step : Step} {w : List Char} (h : step.Fits prices)
    (hw : 1 < w.length) (hp : prices.piece? (String.ofList w) = none) : step.text ≠ w := by
  intro htext
  cases step with
  | piece s =>
    rw [Step.Fits, show s = w from htext, hp] at h
    exact absurd h.2 Bool.false_ne_true
  | unknown s =>
    rcases h with ⟨c, rfl, _⟩
    rw [← htext] at hw
    exact absurd hw (Nat.lt_irrefl 1)

/-! ## Cells ahead -/

/-- A fresh cell is right for a place that no step can reach. -/
theorem cellFor_fresh {place : Nat} {s : List Char} (h : Agrees choices prices)
    (hfar : place + choices.longest ≤ s.length) : CellFor prices place s Cell.fresh := by
  refine .fresh fun front step hend => ?_
  have hlen := congrArg List.length hend.spelled_eq
  rw [spelled_snoc, List.length_append] at hlen
  have hstep := h.text_le (fit_singleton.1 (fit_append.1 hend.fit).2)
  have := hend.before
  omega

/-- What is offered from an optimal path keeps the cells ahead right. -/
theorem advances_cellFor (h : Agrees choices prices) {path : List Step}
    (hpath : Optimal prices path) :
    Advances choices (total prices path : ℚ) (spelled path)
      (CellFor prices (spelled path).length) (CellFor prices ((spelled path).length + 1)) where
  piece := by
    intro w cell score hw hscore hcell
    rw [h.score?_eq] at hscore
    rcases Option.map_eq_some_iff.1 hscore with ⟨x, hp, rfl⟩
    exact hcell.offerPiece hpath hw hp
  long := by
    intro w cell hlong hscore hcell
    rw [h.score?_eq, Option.map_eq_none_iff] at hscore
    exact hcell.skip fun step hstep => hstep.text_ne hlong hscore
  unknown := by
    intro c cell hscore hcell
    rw [h.score?_eq, Option.map_eq_none_iff] at hscore
    rw [h.unknown_eq]
    exact hcell.offerUnknown hpath hscore

/-! ## The whole search -/

/-- Every way to end a nonempty text begins before its end, so a settled cell is reached. -/
theorem Settled.reached {s : List Char} {cell : Cell (WithBot ℚ)} (h : Settled prices s cell)
    (hs : s ≠ []) : ∃ front step, Ending prices s.length s front step ∧
      cell = ⟨(total prices (front ++ [step]) : ℚ), Last.ofStep step⟩ ∧
      ∀ other last, Fit prices (other ++ [last]) → spelled (other ++ [last]) = s →
        total prices (other ++ [last]) ≤ total prices (front ++ [step]) ∧
          (total prices (other ++ [last]) = total prices (front ++ [step]) →
            last.text.length ≤ step.text.length) := by
  have hend : ∀ other last, Fit prices (other ++ [last]) → spelled (other ++ [last]) = s →
      Ending prices s.length s other last := by
    intro other last hfit hspelled
    refine ⟨hfit, hspelled, ?_⟩
    have hlast := List.length_pos_iff.2
      (fit_singleton.1 (fit_append.1 hfit).2).text_ne_nil
    rw [← hspelled, spelled_snoc, List.length_append]
    omega
  rcases h with ⟨hnil, _⟩ | ⟨_, hcell⟩
  · exact absurd hnil hs
  · cases hcell with
    | fresh none =>
      rcases exists_path prices s with ⟨path, hfit, hspelled⟩
      have hne : spelled path ≠ [] := by
        rw [hspelled]
        exact hs
      rcases exists_snoc hne with ⟨front, step, rfl⟩
      exact absurd (hend front step hfit hspelled) (none front step)
    | @reached front step ending best =>
      exact ⟨front, step, ending, rfl, fun other last hfit hspelled =>
        best other last (hend other last hfit hspelled)⟩

/-- A settled cell has the total of an optimal path. -/
theorem Settled.exists_optimal {s : List Char} {cell : Cell (WithBot ℚ)}
    (h : Settled prices s cell) :
    ∃ path, Optimal prices path ∧ spelled path = s ∧ cell.best = (total prices path : ℚ) := by
  by_cases hs : s = []
  · rcases h with ⟨_, rfl⟩ | ⟨hne, _⟩
    · refine ⟨[], ⟨fun step hmem => absurd hmem List.not_mem_nil, ?_⟩, hs.symm, rfl⟩
      intro other hother hspelled
      rw [hother.eq_nil hspelled]
    · exact absurd hs hne
  · rcases h.reached hs with ⟨front, step, hend, rfl, hbest⟩
    refine ⟨front ++ [step], ⟨hend.fit, ?_⟩, hend.spelled_eq, rfl⟩
    intro other hother hspelled
    have hne : spelled other ≠ [] := by
      rw [hspelled, hend.spelled_eq]
      exact hs
    rcases exists_snoc hne with ⟨others, last, rfl⟩
    exact (hbest others last hother (hspelled.trans hend.spelled_eq)).1

/-- The cells of a search are right for the steps that have been tried. -/
theorem invariant_cellFor (h : Agrees choices prices) :
    Invariant choices (CellFor prices) (Settled prices) where
  start := Or.inl ⟨rfl, rfl⟩
  fresh := by
    rintro place s (rfl | hfar)
    · exact .fresh fun _ _ hend => absurd hend.before (Nat.not_lt_zero _)
    · exact cellFor_fresh h hfar
  come := fun s cell hs hcell => Or.inr ⟨hs, hcell⟩
  step := by
    intro s here c rest ahead hhere hrow
    rcases hhere.exists_optimal with ⟨path, hpath, rfl, hbest⟩
    have hreached : here.isReached = true := by
      simp only [Cell.isReached, hbest, Score.same, Score.lowest, WithBot.coe_ne_bot,
        decide_false, Bool.not_false]
    have hadvances := advances_cellFor h hpath
    rw [← hbest] at hadvances
    exact tryAll_rowOf hreached hadvances c rest hrow

/-- The search leaves the last step of a best path for each place of a text. -/
theorem lasts_for (h : Agrees choices prices) (s : List Char) :
    LastsOf (Settled prices) (lasts choices s) s.reverse :=
  (invariant_cellFor h).lasts_of s

end Segmentation

end Subword
