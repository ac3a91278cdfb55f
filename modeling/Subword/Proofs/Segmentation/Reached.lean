import Subword.Proofs.Segmentation.Trace

/-!
# Scores as low as that of a place that has not been reached

A place that has not been reached has the lowest score. A step can have that
score too, and then the place it leads to looks as if it had not been reached:
nothing goes on from there. What is remembered of it is another matter. A piece
with the lowest score is remembered where nothing else was, since it wins the tie
by its length; an unknown character is not, since it would have to be better.

So a text gets its steps exactly if it is empty, or can be ended from a place that
has been reached: by a piece, whatever its score, or by an unknown character that
has a score above the lowest. All other texts are one unknown step, no matter how
long they are.

Nothing here depends on what the scores are apart from being the lowest or not,
which is why no path is better than another one. Which steps there are is told by
prices that are all zero.

## Main definitions

* `free`: Prices that tell which steps there are.
* `Reached`: A text after which the search goes on.
* `Way`: A way to end a text that is remembered.
* `Remembers`: What a cell holds.
* `Covered`: A text that gets its steps.

## Theorems

* `Remembers.offer`: A new step keeps a cell right.
* `invariant_remembers`: All cells of a search are right.
* `steps_of_covered`: The steps of a text that can be ended.
* `steps_of_not_covered`: All other texts are one unknown step.
-/

namespace Subword

namespace Segmentation

variable {choices : Choices (WithBot ℚ)}

/-- Prices that tell which steps there are, and nothing else. -/
def free {S : Type} (choices : Choices S) : Prices :=
  ⟨fun piece => (choices.score? piece).map fun _ => 0, 0⟩

/-- The score of a step. -/
def Step.score {S : Type} (choices : Choices S) : Step → S
  | .piece w => (choices.score? (String.ofList w)).getD choices.unknown
  | .unknown _ => choices.unknown

/-- Choices whose bound on the length of pieces is one. -/
structure Bounded {S : Type} (choices : Choices S) : Prop where
  length_le : ∀ piece score, choices.score? piece = some score → piece.length ≤ choices.longest
  one_le : 1 ≤ choices.longest

/-- A text after which the search goes on: it is made of steps that score above the lowest. -/
inductive Reached (choices : Choices (WithBot ℚ)) : List Char → Prop
  | start : Reached choices []
  | step {front : List Char} {step : Step} : Reached choices front → step.Fits (free choices) →
      step.score choices ≠ ⊥ → Reached choices (front ++ step.text)

/-- A way to end a text that is remembered, with a last step that begins before a given place. -/
structure Way (choices : Choices (WithBot ℚ)) (place : Nat) (s front : List Char) (step : Step) :
    Prop where
  reached : Reached choices front
  fits : step.Fits (free choices)
  /-- Of the steps with the lowest score, only pieces are remembered. -/
  piece : step.score choices = ⊥ → ∃ w, step = .piece w
  text_eq : front ++ step.text = s
  before : front.length < place

/-- The cell for a text that knows the steps which begin before a given place. -/
structure Remembers (choices : Choices (WithBot ℚ)) (place : Nat) (s : List Char)
    (cell : Cell (WithBot ℚ)) : Prop where
  /-- One of the ways to end the text is remembered if there are any. -/
  last : (cell.last = .unreached ∧ ∀ front step, ¬ Way choices place s front step) ∨
    ∃ front step, Way choices place s front step ∧ cell.last = Last.ofStep step
  /-- The place has been reached if one of them scores above the lowest. -/
  best : cell.best ≠ ⊥ ↔ ∃ front step, Way choices place s front step ∧ step.score choices ≠ ⊥

/-- The cell for a text when its place has come up. -/
def Ready (choices : Choices (WithBot ℚ)) (s : List Char) (cell : Cell (WithBot ℚ)) : Prop :=
  s = [] ∧ cell = ⟨Score.zero, .unreached⟩ ∨ s ≠ [] ∧ Remembers choices s.length s cell

/-- A text that gets its steps: the empty one, and those that can be ended. -/
def Covered (choices : Choices (WithBot ℚ)) (s : List Char) : Prop :=
  s = [] ∨ ∃ front step, Way choices s.length s front step

/-! ## Steps -/

theorem fits_piece_iff {S : Type} {choices : Choices S} {w : List Char} :
    (Step.piece w).Fits (free choices) ↔
      w ≠ [] ∧ (choices.score? (String.ofList w)).isSome = true := by
  rw [Step.Fits, free, Option.isSome_map]

theorem fits_unknown_iff {S : Type} {choices : Choices S} {w : List Char} :
    (Step.unknown w).Fits (free choices) ↔
      ∃ c, w = [c] ∧ choices.score? (String.ofList [c]) = none := by
  simp only [Step.Fits, free, Option.map_eq_none_iff]

/-- No step is longer than the longest piece. -/
theorem Bounded.text_le {S : Type} {choices : Choices S} {step : Step} (h : Bounded choices)
    (hs : step.Fits (free choices)) : step.text.length ≤ choices.longest := by
  cases step with
  | piece w =>
    rcases Option.isSome_iff_exists.1 (fits_piece_iff.1 hs).2 with ⟨score, hscore⟩
    have hle := h.length_le _ score hscore
    rwa [String.length_ofList] at hle
  | unknown w =>
    rcases hs with ⟨c, rfl, _⟩
    exact h.one_le

/-! ## One cell -/

variable {place : Nat} {s front other w : List Char} {step : Step} {base : WithBot ℚ}
  {cell next : Cell (WithBot ℚ)}

/-- A way that was known is still one. -/
theorem Way.mono (h : Way choices place s front step) {more : Nat} (hle : place ≤ more) :
    Way choices more s front step :=
  { h with before := Nat.lt_of_lt_of_le h.before hle }

/-- A way that the next place brings in either was known or has its last step just there. -/
theorem Way.cases_succ (h : Way choices (front.length + 1) (front ++ w) other step) :
    Way choices front.length (front ++ w) other step ∨ other = front ∧ step.text = w := by
  by_cases hlt : other.length < front.length
  · exact Or.inl { h with before := hlt }
  · have hlength : other.length = front.length := by
      have := h.before
      omega
    exact Or.inr (List.append_inj h.text_eq hlength)

/-- Where no way has its last step at the next place, that place brings in nothing. -/
theorem Remembers.skip (h : Remembers choices front.length (front ++ w) cell)
    (hnone : ∀ step, ¬ Way choices (front.length + 1) (front ++ w) front step) :
    Remembers choices (front.length + 1) (front ++ w) cell := by
  have hold : ∀ other step, Way choices (front.length + 1) (front ++ w) other step ↔
      Way choices front.length (front ++ w) other step := by
    intro other step
    constructor
    · intro hway
      rcases hway.cases_succ with hway' | ⟨rfl, _⟩
      · exact hway'
      · exact absurd hway (hnone step)
    · exact fun hway => hway.mono (Nat.le_succ _)
  refine ⟨?_, ?_⟩
  · simp only [hold]
    exact h.last
  · simp only [hold]
    exact h.best

/-- A cell that has nothing to remember has not been reached. -/
theorem Remembers.best_of_unreached (h : Remembers choices place s cell)
    (hlast : cell.last = .unreached) : cell.best = ⊥ := by
  rcases h.last with ⟨_, hnone⟩ | ⟨front, step, _, hstep⟩
  · by_contra hbest
    rcases h.best.1 hbest with ⟨front, step, hway, _⟩
    exact hnone front step hway
  · rw [hstep] at hlast
    cases step <;> cases hlast

/-- A new way to end a text is remembered, unless what is remembered scores as much. -/
theorem Remembers.offer (h : Remembers choices front.length (front ++ w) cell)
    (hway : Way choices (front.length + 1) (front ++ w) front step) (hbase : base ≠ ⊥)
    (hnext : next = ⟨base + step.score choices, Last.ofStep step⟩ ∧
        cell.best ≤ base + step.score choices ∨
      next = cell ∧ base + step.score choices ≤ cell.best ∧ cell.last ≠ .unreached) :
    Remembers choices (front.length + 1) (front ++ w) next := by
  have hscore : base + step.score choices ≠ ⊥ ↔ step.score choices ≠ ⊥ := by
    rw [ne_eq, WithBot.add_eq_bot, not_or]
    exact ⟨fun h => h.2, fun h => ⟨hbase, h⟩⟩
  -- A way that is not known yet has this very step.
  have hcases : ∀ {others last}, Way choices (front.length + 1) (front ++ w) others last →
      Way choices front.length (front ++ w) others last ∨ last = step := by
    intro others last hlast
    rcases hlast.cases_succ with hold | ⟨_, htext⟩
    · exact Or.inl hold
    · have hsame := List.append_cancel_left hway.text_eq
      exact Or.inr (hlast.fits.eq_of_text hway.fits (htext.trans hsame.symm))
  rcases hnext with ⟨rfl, hle⟩ | ⟨rfl, hle, hlast⟩
  · refine ⟨Or.inr ⟨front, step, hway, rfl⟩, ?_⟩
    constructor
    · exact fun hbest => ⟨front, step, hway, hscore.1 hbest⟩
    · rintro ⟨others, last, hlast, habove⟩
      rcases hcases hlast with hold | rfl
      · exact ne_bot_of_le_ne_bot (h.best.2 ⟨others, last, hold, habove⟩) hle
      · exact hscore.2 habove
  · -- What is remembered stays. It scores as much as the new way, so nothing is lost.
    refine ⟨?_, ?_⟩
    · rcases h.last with ⟨hnone, _⟩ | ⟨others, last, hold, hstep⟩
      · exact absurd hnone hlast
      · exact Or.inr ⟨others, last, hold.mono (Nat.le_succ _), hstep⟩
    · constructor
      · intro hbest
        rcases h.best.1 hbest with ⟨others, last, hold, habove⟩
        exact ⟨others, last, hold.mono (Nat.le_succ _), habove⟩
      · rintro ⟨others, last, hlast, habove⟩
        rcases hcases hlast with hold | rfl
        · exact h.best.2 ⟨others, last, hold, habove⟩
        · exact ne_bot_of_le_ne_bot (hscore.2 habove) hle

/-- A piece at the next place, tried after a text that has been reached. -/
theorem Remembers.offerPiece (h : Remembers choices front.length (front ++ w) cell)
    (hfront : Reached choices front) (hbase : base ≠ ⊥) (hne : w ≠ []) {score : WithBot ℚ}
    (hscore : choices.score? (String.ofList w) = some score) :
    Remembers choices (front.length + 1) (front ++ w)
      (cell.offerPiece (Score.add base score) w.length) := by
  have hsome : (choices.score? (String.ofList w)).isSome = true := by
    rw [hscore]
    rfl
  have hstep : (Step.piece w).score choices = score := by
    rw [Step.score, hscore, Option.getD_some]
  have hway : Way choices (front.length + 1) (front ++ w) front (.piece w) :=
    ⟨hfront, fits_piece_iff.2 ⟨hne, hsome⟩, fun _ => ⟨w, rfl⟩, rfl, Nat.lt_succ_self _⟩
  refine h.offer hway hbase ?_
  rw [hstep]
  unfold Cell.offerPiece
  simp only [Score.lt, Score.same, Score.add, Bool.or_eq_true, Bool.and_eq_true,
    decide_eq_true_eq]
  split
  · next hwins =>
    rcases hwins with hlt | ⟨heq, _⟩
    · exact Or.inl ⟨rfl, le_of_lt hlt⟩
    · exact Or.inl ⟨rfl, le_of_eq heq.symm⟩
  · next hloses =>
    rw [not_or, not_lt, not_and_or] at hloses
    refine Or.inr ⟨rfl, hloses.1, ?_⟩
    -- Where nothing is remembered, the piece would win the tie.
    intro hlast
    have hbest := h.best_of_unreached hlast
    rw [hbest, hlast] at hloses
    rcases hloses.2 with hne' | hlength
    · exact hne' (le_bot_iff.1 hloses.1)
    · exact hlength (List.length_pos_iff.2 hne)

/-- An unknown character at the next place, tried after a text that has been reached. -/
theorem Remembers.offerUnknown {c : Char}
    (h : Remembers choices front.length (front ++ [c]) cell) (hfront : Reached choices front)
    (hbase : base ≠ ⊥) (hnone : choices.score? (String.ofList [c]) = none) :
    Remembers choices (front.length + 1) (front ++ [c])
      (cell.offerUnknown (Score.add base choices.unknown)) := by
  have hfits : (Step.unknown [c]).Fits (free choices) := fits_unknown_iff.2 ⟨c, rfl, hnone⟩
  unfold Cell.offerUnknown
  simp only [Score.lt, Score.add, decide_eq_true_eq]
  by_cases hunknown : choices.unknown = ⊥
  · -- At the lowest score the step is no better than nothing, and is not remembered.
    rw [hunknown, WithBot.add_bot, if_neg not_lt_bot]
    refine h.skip fun step hway => ?_
    have hstep := hway.fits.eq_of_text hfits (List.append_cancel_left hway.text_eq)
    rcases hway.piece (by rw [hstep]; exact hunknown) with ⟨w, hpiece⟩
    rw [hpiece] at hstep
    cases hstep
  · have hway : Way choices (front.length + 1) (front ++ [c]) front (.unknown [c]) :=
      ⟨hfront, hfits, fun hlowest => absurd hlowest hunknown, rfl, Nat.lt_succ_self _⟩
    refine h.offer hway hbase ?_
    rw [Step.score]
    split
    · next hlt => exact Or.inl ⟨rfl, le_of_lt hlt⟩
    · next hle =>
      refine Or.inr ⟨rfl, not_lt.1 hle, ?_⟩
      intro hlast
      rw [h.best_of_unreached hlast, not_lt, le_bot_iff, WithBot.add_eq_bot] at hle
      exact hle.elim hbase hunknown

/-! ## Cells ahead -/

/-- A fresh cell is right where there is no way to end the text. -/
theorem remembers_fresh (h : ∀ front step, ¬ Way choices place s front step) :
    Remembers choices place s Cell.fresh := by
  refine ⟨Or.inl ⟨rfl, h⟩, ?_⟩
  constructor
  · exact fun hbest => absurd rfl hbest
  · rintro ⟨front, step, hway, _⟩
    exact absurd hway (h front step)

/-- Where the steps that are known all fall short, there is no way to end the text. -/
theorem Bounded.not_way (h : Bounded choices) (hfar : place + choices.longest ≤ s.length) :
    ¬ Way choices place s front step := by
  intro hway
  have hlength := congrArg List.length hway.text_eq
  rw [List.length_append] at hlength
  have hle := h.text_le hway.fits
  have hlt := hway.before
  omega

/-- What is offered from a text that has been reached keeps the cells ahead right. -/
theorem advances_remembers (hfront : Reached choices front) (hbase : base ≠ ⊥) :
    Advances choices base front (Remembers choices front.length)
      (Remembers choices (front.length + 1)) where
  piece := fun w cell score hw hscore hcell => hcell.offerPiece hfront hbase hw hscore
  long := by
    intro w cell hlong hscore hcell
    refine hcell.skip fun step hway => ?_
    refine hway.fits.text_ne hlong ?_ (List.append_cancel_left hway.text_eq)
    simp only [free, hscore, Option.map_none]
  unknown := fun c cell hscore hcell => hcell.offerUnknown hfront hbase hscore

theorem isReached_iff : cell.isReached = true ↔ cell.best ≠ ⊥ := by
  simp only [Cell.isReached, Score.same, Score.lowest, Bool.not_eq_true', decide_eq_false_iff_not]

/-! ## The whole search -/

/-- What the search goes on from has been ended. -/
theorem Reached.exists_way (h : Reached choices s) (hs : s ≠ []) :
    ∃ front step, Way choices s.length s front step ∧ step.score choices ≠ ⊥ := by
  cases h with
  | start => exact absurd rfl hs
  | @step front step hfront hfits habove =>
    refine ⟨front, step, ⟨hfront, hfits, fun hlowest => absurd hlowest habove, rfl, ?_⟩, habove⟩
    have hpos := List.length_pos_iff.2 hfits.text_ne_nil
    rw [List.length_append]
    omega

/-- Steps that score above the lowest lead to a text that the search goes on from. -/
theorem reached_spelled {path : List Step} (hfit : Fit (free choices) path)
    (habove : ∀ step ∈ path, step.score choices ≠ ⊥) : Reached choices (spelled path) := by
  induction path using List.reverseRecOn with
  | nil => exact .start
  | append_singleton path step ih =>
    rw [spelled_snoc]
    have hfits := fit_append.1 hfit
    have hfront := ih hfits.1 fun other hmem => habove other (List.mem_append_left _ hmem)
    exact hfront.step (fit_singleton.1 hfits.2) (habove step (List.mem_append_right _
      (List.mem_singleton_self step)))

theorem Reached.covered (h : Reached choices s) : Covered choices s := by
  by_cases hs : s = []
  · exact Or.inl hs
  · rcases h.exists_way hs with ⟨front, step, hway, _⟩
    exact Or.inr ⟨front, step, hway⟩

/-- A cell whose place has come up tells whether the search goes on from there. -/
theorem Ready.reached_iff (h : Ready choices s cell) : cell.best ≠ ⊥ ↔ Reached choices s := by
  rcases h with ⟨rfl, rfl⟩ | ⟨hs, hcell⟩
  · exact ⟨fun _ => .start, fun _ => WithBot.coe_ne_bot⟩
  · rw [hcell.best]
    constructor
    · rintro ⟨front, step, hway, habove⟩
      rw [← hway.text_eq]
      exact hway.reached.step hway.fits habove
    · exact fun hreached => hreached.exists_way hs

/-- Of a text that can be ended, one of the ways is remembered. -/
theorem Ready.exists_way (h : Ready choices s cell) (hs : s ≠ []) (hcovered : Covered choices s) :
    ∃ front step, Way choices s.length s front step ∧ cell.last = Last.ofStep step := by
  rcases h with ⟨hnil, _⟩ | ⟨_, hcell⟩
  · exact absurd hnil hs
  · rcases hcell.last with ⟨_, hnone⟩ | hway
    · rcases hcovered with hnil | ⟨front, step, hway⟩
      · exact absurd hnil hs
      · exact absurd hway (hnone front step)
    · exact hway

/-- Of a text that cannot be ended, nothing is remembered. -/
theorem Ready.last_of_not_covered (h : Ready choices s cell) (hs : ¬ Covered choices s) :
    cell.last = .unreached := by
  rcases h with ⟨hnil, _⟩ | ⟨_, hcell⟩
  · exact absurd (Or.inl hnil) hs
  · rcases hcell.last with ⟨hlast, _⟩ | ⟨front, step, hway, _⟩
    · exact hlast
    · exact absurd (Or.inr ⟨front, step, hway⟩) hs

/-- The cells of a search remember the steps that have been tried. -/
theorem invariant_remembers (h : Bounded choices) :
    Invariant choices (Remembers choices) (Ready choices) where
  start := Or.inl ⟨rfl, rfl⟩
  fresh := by
    rintro place s (rfl | hfar)
    · exact remembers_fresh fun _ _ hway => absurd hway.before (Nat.not_lt_zero _)
    · exact remembers_fresh fun _ _ => h.not_way hfar
  come := fun s cell hs hcell => Or.inr ⟨hs, hcell⟩
  step := by
    intro s here c rest ahead hhere hrow
    by_cases hbest : here.best = ⊥
    · -- From a place that has not been reached, nothing is tried.
      rw [tryAll, if_neg fun h => isReached_iff.1 h hbest]
      have hfront : ¬ Reached choices s := fun h => hhere.reached_iff.2 h hbest
      exact hrow.imp fun w cell hcell => hcell.skip fun step hway => hfront hway.reached
    · exact tryAll_rowOf (isReached_iff.2 hbest)
        (advances_remembers (hhere.reached_iff.1 hbest) hbest) c rest hrow

/-- The search leaves a way to end each beginning of a text, if there is one. -/
theorem lasts_remember (h : Bounded choices) (s : List Char) :
    LastsOf (Ready choices) (lasts choices s) s.reverse :=
  (invariant_remembers h).lasts_of s

/-- The steps that are read off a text that can be ended. -/
theorem traceOnto_covered (bound : Nat) : ∀ (done : List Step) (lasts : List Last)
    (s : List Char), LastsOf (Ready choices) lasts s → s.length ≤ bound →
      Covered choices s.reverse →
      ∃ path, traceOnto done bound lasts s = path ++ done ∧ Fit (free choices) path ∧
        spelled path = s.reverse := by
  have hnil : Fit (free choices) [] := fun step hmem => absurd hmem List.not_mem_nil
  induction bound with
  | zero =>
    intro done lasts s _ hle _
    rw [List.eq_nil_of_length_eq_zero (Nat.le_zero.1 hle)]
    exact ⟨[], by rw [traceOnto, List.nil_append], hnil, rfl⟩
  | succ bound ih =>
    intro done lasts s h hle hcovered
    cases s with
    | nil =>
      refine ⟨[], ?_, hnil, rfl⟩
      rw [List.nil_append]
      cases lasts <;> rfl
    | cons c s =>
      cases lasts with
      | nil => exact h.elim
      | cons last lasts =>
        rcases h.1 with ⟨cell, hcell, hlast⟩
        have hne : (c :: s).reverse ≠ [] := by
          rw [ne_eq, List.reverse_eq_nil_iff]
          exact List.cons_ne_nil c s
        rcases hcell.exists_way hne hcovered with ⟨front, step, hway, hstep⟩
        rw [← hlast, hstep] at h ⊢
        rcases h.traceOnto_eq hway.fits hway.text_eq hle with ⟨others, hothers, hbound, htrace⟩
        -- The search went on from the front, so the front can be ended as well.
        have hfront := hway.reached.covered
        rw [← List.reverse_reverse front] at hfront
        rcases ih (step :: done) _ _ hothers hbound hfront with ⟨path, hpath, hfit, hspelled⟩
        rw [List.reverse_reverse] at hspelled
        refine ⟨path ++ [step], ?_, fit_append.2 ⟨hfit, fit_singleton.2 hway.fits⟩, ?_⟩
        · rw [htrace, hpath, List.append_assoc, List.singleton_append]
        · rw [spelled_snoc, hspelled]
          exact hway.text_eq

/-- A text that can be ended gets steps that cover it, each a piece with a score or one
    character that has none. -/
theorem steps_of_covered (h : Bounded choices) (hs : Covered choices s) :
    Fit (free choices) (steps choices s) ∧ spelled (steps choices s) = s := by
  rw [← List.reverse_reverse s] at hs
  have hlen : s.reverse.length ≤ s.length := Nat.le_of_eq List.length_reverse
  rcases traceOnto_covered s.length [] (lasts choices s) s.reverse (lasts_remember h s) hlen hs
    with ⟨path, htrace, hfit, hspelled⟩
  rw [List.append_nil] at htrace
  rw [List.reverse_reverse] at hspelled
  rw [steps, htrace]
  exact ⟨hfit, hspelled⟩

/-- A text that cannot be ended is one unknown step. -/
theorem steps_of_not_covered (h : Bounded choices) (hs : ¬ Covered choices s) :
    steps choices s = [.unknown s] := by
  have hlasts := lasts_remember h s
  cases hrev : s.reverse with
  | nil => exact absurd (Or.inl (List.reverse_eq_nil_iff.1 hrev)) hs
  | cons c r =>
    have hlength : s.length = r.length + 1 := by
      rw [← List.length_reverse, hrev, List.length_cons]
    have htext : s = (c :: r).reverse := by
      rw [← hrev, List.reverse_reverse]
    rw [hrev] at hlasts
    unfold steps
    cases hleft : lasts choices s with
    | nil =>
      rw [hleft] at hlasts
      exact hlasts.elim
    | cons last others =>
      rw [hleft] at hlasts
      -- The last place is read first, and nothing is remembered there.
      rcases hlasts.1 with ⟨cell, hcell, hlast⟩
      rw [← htext] at hcell
      rw [← hlast, hcell.last_of_not_covered hs, hrev, hlength, traceOnto, ← htext]

end Segmentation

end Subword
