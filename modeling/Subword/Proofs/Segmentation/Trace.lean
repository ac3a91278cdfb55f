import Subword.Proofs.Segmentation.Search

/-!
# Reading off the best segmentation

The search remembers one thing of each place, the last step of a best path to
it. Reading the steps off from the end of the text goes from place to place: a
step is taken, as many places as it covers are left out, and the step that is
remembered there is taken next.

That the path put together in this way is a best one is not in the cells, which
speak of other fronts than the one that is read off. It follows from the end
backwards: the front that is read off is optimal, so it does not lose to the
front the cell knew, and the cell's last step is the same.

## Theorems

* `LastsOf.traceOnto_eq`: Reading off a step leaves its front.
* `traceOnto_chosen`: The steps that are read off are a chosen path.
* `steps_bestPath`: The search gives the best path for every text.
-/

namespace Subword

namespace Segmentation

variable {prices : Prices} {choices : Choices (WithBot ℚ)}

/-- Reading off one step. The text is in reverse, so it begins with the step. -/
theorem traceOnto_ofStep {step : Step} (hstep : step.Fits prices) (done : List Step)
    (bound : Nat) (lasts : List Last) (front : List Char) :
    traceOnto done (bound + 1) (Last.ofStep step :: lasts) (step.text.reverse ++ front)
      = traceOnto (step :: done) bound ((Last.ofStep step :: lasts).drop step.text.length)
        front := by
  cases step with
  | piece w =>
    have hw : w.reverse ≠ [] := by
      rw [ne_eq, List.reverse_eq_nil_iff]
      exact hstep.1
    have hlen : w.length = w.reverse.length := List.length_reverse.symm
    have htake : (w.reverse ++ front).take w.length = w.reverse := by
      rw [hlen, List.take_left]
    have hdrop : (w.reverse ++ front).drop w.length = front := by
      rw [hlen, List.drop_left]
    have htext : (Step.piece w).text = w := rfl
    rw [htext]
    cases hrev : w.reverse with
    | nil => exact absurd hrev hw
    | cons c r =>
      rw [hrev, List.cons_append] at htake hdrop
      rw [List.cons_append, Last.ofStep, traceOnto, htake, hdrop, ← hrev, List.reverse_reverse]
  | unknown w =>
    rcases hstep with ⟨c, rfl, _⟩
    rfl

/-- Reading off the step that is remembered of a text leaves its front, and less to go. -/
theorem LastsOf.traceOnto_eq {ready : List Char → Cell (WithBot ℚ) → Prop} {lasts : List Last}
    {s front : List Char} {step : Step} {bound : Nat}
    (h : LastsOf ready (Last.ofStep step :: lasts) s) (hstep : step.Fits prices)
    (hs : front ++ step.text = s.reverse) (hle : s.length ≤ bound + 1) :
    ∃ others, LastsOf ready others front.reverse ∧ front.reverse.length ≤ bound ∧
      ∀ done, traceOnto done (bound + 1) (Last.ofStep step :: lasts) s
        = traceOnto (step :: done) bound others front.reverse := by
  -- In reverse, the text begins with the step and goes on with its front.
  have hrev : s = step.text.reverse ++ front.reverse := by
    rw [← List.reverse_append, hs, List.reverse_reverse]
  have hpos := List.length_pos_iff.2 hstep.text_ne_nil
  have hlen := congrArg List.length hrev
  rw [List.length_append, List.length_reverse] at hlen
  have hdrop : s.drop step.text.length = front.reverse := by
    rw [hrev, ← List.length_reverse, List.drop_left]
  have hfront := h.drop step.text.length (by omega)
  rw [hdrop] at hfront
  refine ⟨_, hfront, by omega, fun done => ?_⟩
  rw [hrev]
  exact traceOnto_ofStep hstep done bound lasts _

/-- A chosen path in front of the last step of a settled cell gives a chosen path. -/
theorem Chosen.snoc_ending {s : List Char} {front path : List Step} {step : Step}
    (hpath : Chosen prices path) (hspelled : spelled path = spelled front)
    (hend : Ending prices s.length s front step)
    (hbest : ∀ other last, Fit prices (other ++ [last]) → spelled (other ++ [last]) = s →
      total prices (other ++ [last]) ≤ total prices (front ++ [step]) ∧
        (total prices (other ++ [last]) = total prices (front ++ [step]) →
          last.text.length ≤ step.text.length)) :
    Chosen prices (path ++ [step]) ∧ spelled (path ++ [step]) = s := by
  have hfit := fit_append.1 hend.fit
  have hs : spelled (path ++ [step]) = s := by
    rw [spelled_append, hspelled, ← spelled_append]
    exact hend.spelled_eq
  have htotal : total prices (path ++ [step]) = total prices (front ++ [step]) := by
    refine le_antisymm (hbest path step (fit_append.2 ⟨hpath.fit, hfit.2⟩) hs).1 ?_
    exact hpath.optimal.append_le hfit.1 hspelled.symm
  refine ⟨.snoc hpath (fit_singleton.1 hfit.2) ?_, hs⟩
  intro other last hother hsame
  rw [htotal]
  exact hbest other last hother (hsame.trans hs)

/-- The steps that are read off are a chosen path. -/
theorem traceOnto_chosen (bound : Nat) : ∀ (done : List Step) (lasts : List Last) (s : List Char),
    LastsOf (Settled prices) lasts s → s.length ≤ bound →
      ∃ path, traceOnto done bound lasts s = path ++ done ∧ Chosen prices path ∧
        spelled path = s.reverse := by
  induction bound with
  | zero =>
    intro done lasts s _ hle
    rw [List.eq_nil_of_length_eq_zero (Nat.le_zero.1 hle)]
    exact ⟨[], by rw [traceOnto, List.nil_append], .nil, rfl⟩
  | succ bound ih =>
    intro done lasts s h hle
    cases s with
    | nil =>
      refine ⟨[], ?_, .nil, rfl⟩
      rw [List.nil_append]
      cases lasts <;> rfl
    | cons c s =>
      cases lasts with
      | nil => exact h.elim
      | cons last lasts =>
        rcases h.1 with ⟨cell, hcell, hlast⟩
        have hne : (c :: s).reverse ≠ [] := by
          rw [ne_eq, List.reverse_eq_nil_iff]
          exact List.cons_ne_nil c s
        rcases hcell.reached hne with ⟨front, step, hend, rfl, hbest⟩
        have hstep := fit_singleton.1 (fit_append.1 hend.fit).2
        have htext := hend.spelled_eq
        rw [spelled_snoc] at htext
        rw [← hlast] at h ⊢
        rcases h.traceOnto_eq hstep htext hle with ⟨others, hothers, hbound, htrace⟩
        rcases ih (step :: done) _ _ hothers hbound with ⟨path, hpath, hchosen, hspelled⟩
        rw [List.reverse_reverse] at hspelled
        rcases hchosen.snoc_ending hspelled hend hbest with ⟨hsnoc, hs⟩
        refine ⟨path ++ [step], ?_, hsnoc, hs⟩
        rw [htrace, hpath, List.append_assoc, List.singleton_append]

/-- The search gives the best path for every text. -/
theorem steps_bestPath (h : Agrees choices prices) (s : List Char) :
    BestPath prices s (steps choices s) := by
  have hlen : s.reverse.length ≤ s.length := Nat.le_of_eq List.length_reverse
  rcases traceOnto_chosen s.length [] (lasts choices s) s.reverse (lasts_for h s) hlen with
    ⟨path, htrace, hpath, hspelled⟩
  rw [List.append_nil] at htrace
  rw [List.reverse_reverse] at hspelled
  rw [steps, htrace, ← hspelled]
  exact hpath.bestPath

end Segmentation

end Subword
