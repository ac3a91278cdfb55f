import Subword.Proofs.Regex.Ends
import Subword.Regex.Matching

/-!
# What a match takes

Every match that is found stands between a place of the text and one where a
match of the expression can end, and such an end comes from one of the
alternatives of the expression. Where that is a set, or a repetition of a set,
the match crosses characters of the set and no others. So for an expression
whose alternatives are all of this kind it is known what its matches are made
of, whatever the text is.

## Theorems

* `Regex.crosses_ends_one`, `Regex.crosses_ends_many`: What sets and their repetitions take.
* `Regex.between_of_word`: What a fixed text takes.
* `Regex.exists_alternative`: An end comes from an alternative.
* `Regex.mem_findAll`: Where the matches of a text stand.
-/

namespace Subword

namespace Regex

open Cursor

variable {bound : Nat} {r : Regex} {caseless : Bool} {set : CharSet} {counts : Counts}
  {c d : Cursor}

/-! ## Sets -/

/-- A set takes one character of its own. -/
theorem crosses_ends_one (h : d ∈ (ends bound (one caseless set) c).toList) :
    Crosses caseless set c d ∧ d.passed = c.passed + 1 := by
  rcases c with ⟨_ | ⟨x, rest⟩, passed⟩
  · cases h
  · rw [ends, step?] at h
    dsimp only at h
    by_cases hx : set.accepts caseless x = true
    · rw [if_pos hx] at h
      rw [List.mem_singleton.1 h]
      exact ⟨Crosses.cons hx (Crosses.refl _), rfl⟩
    · rw [if_neg hx] at h
      cases h

/-- A repetition of a set takes characters of the set. -/
theorem crosses_ends_many (h : d ∈ (ends bound (many counts (one caseless set)) c).toList) :
    Crosses caseless set c d := by
  rw [ends] at h
  have hwalk := (List.takeWhile_sublist _).mem (mem_of_mem_order h)
  rcases crosses_walkOnto c.rest 0 [] c.passed hwalk with hnil | hcrosses
  · cases hnil
  · exact hcrosses

/-! ## Fixed texts -/

/-- The sets of some characters, one after the other, take these characters. -/
theorem ends_fixed (text : List Char) : ∀ c : Cursor,
    d ∈ (ends bound (seqs (text.map fun x => ofSet (.char x))) c).toList →
      c.rest = text ++ d.rest ∧ d.passed = c.passed + text.length := by
  have hone : ∀ {x : Char} {c d : Cursor}, d ∈ (ends bound (ofSet (.char x)) c).toList →
      c.rest = x :: d.rest ∧ d.passed = c.passed + 1 := by
    intro x c d h
    rcases crosses_ends_one h with ⟨⟨taken, hrest, hpassed, hall⟩, hcount⟩
    obtain ⟨y, rfl⟩ := List.length_eq_one_iff.1 (show taken.length = 1 by omega)
    have hx : y = x := of_decide_eq_true (hall y List.mem_cons_self)
    exact ⟨by rw [hrest, hx, List.singleton_append], hcount⟩
  induction text with
  | nil =>
    intro c h
    rw [List.mem_singleton.1 h]
    exact ⟨rfl, rfl⟩
  | cons x text ih =>
    intro c h
    cases text with
    | nil => exact hone h
    | cons y text =>
      have hseq : seqs ((x :: y :: text).map fun x => ofSet (.char x))
          = seq (ofSet (.char x)) (seqs ((y :: text).map fun x => ofSet (.char x))) := rfl
      rw [hseq, ends, Ends.toList_bind, List.mem_flatMap] at h
      rcases h with ⟨middle, hfirst, hmore⟩
      rcases hone hfirst with ⟨hrest, hpassed⟩
      rcases ih middle hmore with ⟨hrest', hpassed'⟩
      refine ⟨hrest.trans (congrArg (x :: ·) hrest'), ?_⟩
      simp only [List.length_cons] at hpassed' ⊢
      omega

/-- A fixed text takes itself. -/
theorem between_of_word {text : String} (h : d ∈ (ends bound (word text) c).toList) :
    c.between d = text.toList := by
  rcases ends_fixed text.toList c h with ⟨hrest, hpassed⟩
  rw [between, hpassed, Nat.add_sub_cancel_left, hrest, List.take_left]

/-! ## Alternatives and successive matches -/

/-- Where an expression can end, one of its alternatives can. -/
theorem exists_alternative (r : Regex) : d ∈ (ends bound r c).toList →
    ∃ a ∈ r.alternatives, d ∈ (ends bound a c).toList := by
  induction r with
  | alt r s ihr ihs =>
    intro h
    rw [ends, Ends.toList_append, List.mem_append] at h
    rw [alternatives]
    rcases h with h | h
    · rcases ihr h with ⟨a, ha, hd⟩
      exact ⟨a, List.mem_append_left _ ha, hd⟩
    · rcases ihs h with ⟨a, ha, hd⟩
      exact ⟨a, List.mem_append_right _ ha, hd⟩
  | _ =>
    -- Any other expression is its own only alternative.
    exact fun h => ⟨_, List.mem_singleton_self _, h⟩

/-- A match that is found later stands between a place and an end of the expression there. -/
theorem mem_findOnto {gate : Option CharSet} {chunk : List Char} (steps : Nat) :
    ∀ (done : List (List Char)) (mustAdvance : Bool) (c : Cursor),
      chunk ∈ findOnto bound r gate steps done mustAdvance c →
        chunk ∈ done ∨ ∃ c d : Cursor, d ∈ (ends bound r c).toList ∧ chunk = c.between d := by
  induction steps with
  | zero => exact fun done mustAdvance c h => Or.inl (List.mem_reverse.1 h)
  | succ steps ih =>
    intro done mustAdvance c h
    rw [findOnto] at h
    split at h
    · next d hmatch =>
      have hd : d ∈ (ends bound r c).toList := by
        split at hmatch
        · rw [matchAt, Ends.find?_eq] at hmatch
          exact List.mem_of_find?_eq_some hmatch
        · cases hmatch
      -- What is found from there on was there before, is this match, or is a later one.
      rcases ih _ _ _ h with hmem | hfound
      · rcases List.mem_cons.1 hmem with rfl | hmem
        · exact Or.inr ⟨c, d, hd, rfl⟩
        · exact Or.inl hmem
      · exact Or.inr hfound
    · split at h
      · exact Or.inl (List.mem_reverse.1 h)
      · exact ih _ _ _ h

/-- A match in a text stands between a place and an end of the expression there. -/
theorem mem_findAll {s chunk : List Char} (h : chunk ∈ r.findAll s) :
    ∃ c d : Cursor, d ∈ (ends s.length r c).toList ∧ chunk = c.between d := by
  rcases mem_findOnto _ _ _ _ h with hnil | hfound
  · cases hnil
  · exact hfound

end Regex

end Subword
