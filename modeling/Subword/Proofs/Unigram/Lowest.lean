import Subword.Proofs.Segmentation.Reached
import Subword.Proofs.Unigram.Best

/-!
# Pieces with the lowest score

A table of scores may hold the lowest score, below all numbers. A search takes a
place with that score for one that it has not reached, so it does not go on behind
a piece that has it. The unknown character suffers as well, whatever its place in
the text: it scores ten less than the worst piece, and nothing is less than the
lowest.

With one such piece in the table there are thus no unknown steps at all. A text
still gets its steps if it can be cut into pieces of which only the last one has
the lowest score. Any other text is one unknown step from its beginning to its
end, and there is one unknown token for all of its characters.

## Main definitions

* `Unigram.Matches`: A text that is a piece.
* `Unigram.Proper`: A piece, or one character that is none.
* `Unigram.Cuttable`: A text that is made of pieces, the last of any score.

## Theorems

* `Unigram.unknown_eq_bot_iff`: When an unknown character has the lowest score.
* `Unigram.covered_iff`: The texts that get their steps.
* `Unigram.proper_or_collapsed`: Which texts get proper steps, and what the others get.
-/

namespace Subword

namespace Unigram

open Segmentation

variable {v : Vocabulary} {dummyPrefix byteFallback : Bool} {scores : List (WithBot ℚ)}

/-- A text that is a piece of the vocabulary. -/
def Matches (v : Vocabulary) (s : List Char) : Prop :=
  ∃ id, v.get? (String.ofList s) = some id ∧ isPiece v id (String.ofList s) = true

/-- A step as it should be: a piece of the vocabulary, or one character that is none. -/
def Proper (v : Vocabulary) : Step → Prop
  | .piece s => Matches v s
  | .unknown s => ∃ c, s = [c] ∧ ¬ Matches v [c]

/-- Scores of which none that belongs to a piece is the lowest. -/
def NoneLowest (v : Vocabulary) (scores : List (WithBot ℚ)) : Prop :=
  ∀ piece, pieceScore? v scores piece ≠ some ⊥

/-- A text that is made of pieces, of which only the last one may have the lowest score. -/
def Cuttable (v : Vocabulary) (scores : List (WithBot ℚ)) (s : List Char) : Prop :=
  ∃ (front : List (List Char)) (last : List Char), s = front.flatten ++ last ∧ Matches v last ∧
    ∀ w ∈ front, ∃ x : ℚ, pieceScore? v scores (String.ofList w) = some x

/-- The choices of a search through a table of scores. -/
abbrev table (v : Vocabulary) (scores : List (WithBot ℚ)) (dummyPrefix byteFallback : Bool) :
    Choices (WithBot ℚ) :=
  (make v scores dummyPrefix byteFallback).choices v

/-! ## Pieces -/

theorem Matches.ne_nil {s : List Char} (h : Matches v s) : s ≠ [] := by
  rcases h with ⟨id, _, hpiece⟩
  rintro rfl
  rw [isPiece, show (String.ofList []).isEmpty = true from rfl, Bool.not_true, Bool.and_false,
    Bool.false_and] at hpiece
  exact Bool.false_ne_true hpiece

theorem matches_iff (h : scores.length = v.size) {s : List Char} :
    Matches v s ↔ (pieceScore? v scores (String.ofList s)).isSome = true :=
  ⟨fun ⟨_, hget, hpiece⟩ => isSome_pieceScore? h hget hpiece, exists_piece⟩

theorem score?_table (h : scores.length = v.size) (piece : String) :
    (table v scores dummyPrefix byteFallback).score? piece = pieceScore? v scores piece :=
  score?_make_eq h piece

/-- The steps that a search chooses from are the proper ones. -/
theorem fits_iff_proper (h : scores.length = v.size) {step : Step} :
    step.Fits (free (table v scores dummyPrefix byteFallback)) ↔ Proper v step := by
  cases step with
  | piece s =>
    rw [fits_piece_iff, score?_table h, ← matches_iff h, Proper]
    exact ⟨fun hfits => hfits.2, fun hmatches => ⟨hmatches.ne_nil, hmatches⟩⟩
  | unknown s =>
    simp only [fits_unknown_iff, score?_table h, Proper, matches_iff h,
      Option.not_isSome_iff_eq_none]

theorem table_bounded (h : scores.length = v.size) :
    Bounded (table v scores dummyPrefix byteFallback) := by
  refine ⟨fun piece score hscore => ?_, one_le_longest scores dummyPrefix byteFallback⟩
  rw [score?_table h] at hscore
  show _ ≤ (make v scores dummyPrefix byteFallback).longest
  exact length_le_longest h hscore

/-! ## The lowest score -/

/-- The least of some scores is the lowest if one of them is. -/
theorem leastScore_eq_bot_iff {scores : List (WithBot ℚ)} :
    leastScore scores = ⊥ ↔ ⊥ ∈ scores := by
  cases scores with
  | nil => exact ⟨fun h => absurd h WithBot.coe_ne_bot, fun h => absurd h List.not_mem_nil⟩
  | cons first rest =>
    show rest.foldl _ first = ⊥ ↔ _
    -- The lowest score is never replaced once it has been met.
    induction rest generalizing first with
    | nil => rw [List.foldl_nil, List.mem_singleton, eq_comm]
    | cons x rest ih =>
      have hleast : (if Score.lt x first then x else first) = ⊥ ↔ first = ⊥ ∨ x = ⊥ := by
        simp only [Score.lt, decide_eq_true_eq]
        split
        · next hlt => exact ⟨Or.inr, fun h => h.resolve_left (ne_bot_of_gt hlt)⟩
        · next hle =>
          refine ⟨Or.inl, fun h => h.elim id fun hx => ?_⟩
          rwa [hx, not_lt, le_bot_iff] at hle
      rw [List.foldl_cons, ih, List.mem_cons, List.mem_cons, List.mem_cons, ← or_assoc,
        @eq_comm _ ⊥ (ite _ _ _), hleast, @eq_comm _ first, @eq_comm _ x]

/-- An unknown character has the lowest score if one of the pieces has. -/
theorem unknown_eq_bot_iff (h : scores.length = v.size) :
    (table v scores dummyPrefix byteFallback).unknown = ⊥ ↔ ¬ NoneLowest v scores := by
  have hten : ∀ score : WithBot ℚ, Score.tenLess score = ⊥ ↔ score = ⊥ := by
    intro score
    show score + ((-10 : ℚ) : WithBot ℚ) = ⊥ ↔ _
    rw [WithBot.add_eq_bot]
    exact ⟨fun h => h.resolve_right WithBot.coe_ne_bot, Or.inl⟩
  show (make v scores dummyPrefix byteFallback).unknownScore = ⊥ ↔ _
  rw [unknownScore_make, hten, leastScore_eq_bot_iff, NoneLowest, not_forall, List.mem_map]
  constructor
  · rintro ⟨⟨piece, score⟩, hmem, rfl⟩
    exact ⟨piece, not_not_intro ((mem_scoredPieces h).1 hmem)⟩
  · rintro ⟨piece, hpiece⟩
    exact ⟨(piece, ⊥), (mem_scoredPieces h).2 (not_not.1 hpiece), rfl⟩

theorem score_piece (h : scores.length = v.size) {w : List Char} {score : WithBot ℚ}
    (hscore : pieceScore? v scores (String.ofList w) = some score) :
    (Step.piece w).score (table v scores dummyPrefix byteFallback) = score := by
  rw [Step.score, score?_table h, hscore, Option.getD_some]

/-! ## Texts that get their steps -/

/-- Where no piece has the lowest score, no step has. -/
theorem score_ne_bot (h : scores.length = v.size) (hnone : NoneLowest v scores) {step : Step}
    (hfits : step.Fits (free (table v scores dummyPrefix byteFallback))) :
    step.score (table v scores dummyPrefix byteFallback) ≠ ⊥ := by
  cases step with
  | piece w =>
    rcases Option.isSome_iff_exists.1 ((matches_iff h).1 ((fits_iff_proper h).1 hfits))
      with ⟨score, hscore⟩
    rw [score_piece h hscore]
    rintro rfl
    exact hnone _ hscore
  | unknown w => exact fun hbot => (unknown_eq_bot_iff h).1 hbot hnone

/-- With the lowest score in the table, the search goes on behind pieces with numbers alone. -/
theorem exists_pieces (h : scores.length = v.size) (hlowest : ¬ NoneLowest v scores)
    {s : List Char} (hs : Reached (table v scores dummyPrefix byteFallback) s) :
    ∃ front : List (List Char), s = front.flatten ∧
      ∀ w ∈ front, ∃ x : ℚ, pieceScore? v scores (String.ofList w) = some x := by
  induction hs with
  | start => exact ⟨[], rfl, fun w hmem => absurd hmem List.not_mem_nil⟩
  | @step _ step _ hfits habove ih =>
    rcases ih with ⟨front, rfl, hfront⟩
    cases step with
    | piece w =>
      rcases Option.isSome_iff_exists.1 ((matches_iff h).1 ((fits_iff_proper h).1 hfits))
        with ⟨score, hscore⟩
      rw [score_piece h hscore] at habove
      rcases WithBot.ne_bot_iff_exists.1 habove with ⟨x, rfl⟩
      refine ⟨front ++ [w], ?_, ?_⟩
      · rw [List.flatten_append, List.flatten_singleton]
        rfl
      · intro other hmem
        rcases List.mem_append.1 hmem with hold | hnew
        · exact hfront other hold
        · rw [List.mem_singleton.1 hnew]
          exact ⟨x, hscore⟩
    | unknown w =>
      -- An unknown character has the lowest score as well.
      exact absurd ((unknown_eq_bot_iff h).2 hlowest) habove

/-- The search goes on behind pieces whose scores are numbers. -/
theorem reached_flatten (h : scores.length = v.size) {front : List (List Char)}
    (hfront : ∀ w ∈ front, ∃ x : ℚ, pieceScore? v scores (String.ofList w) = some x) :
    Reached (table v scores dummyPrefix byteFallback) front.flatten := by
  have hspelled : spelled (front.map Step.piece) = front.flatten := by
    rw [spelled, List.flatMap_map, List.flatMap_def]
    exact congrArg List.flatten (List.map_id front)
  rw [← hspelled]
  refine reached_spelled ?_ ?_
  · intro step hmem
    rcases List.mem_map.1 hmem with ⟨w, hw, rfl⟩
    rcases hfront w hw with ⟨x, hx⟩
    refine (fits_iff_proper h).2 ((matches_iff h).2 ?_)
    rw [hx]
    rfl
  · intro step hmem
    rcases List.mem_map.1 hmem with ⟨w, hw, rfl⟩
    rcases hfront w hw with ⟨x, hx⟩
    rw [score_piece h hx]
    exact WithBot.coe_ne_bot

/-- The texts that get their steps: the empty one, those made of pieces, and all of them where
    no piece has the lowest score. -/
theorem covered_iff (h : scores.length = v.size) {s : List Char} :
    Covered (table v scores dummyPrefix byteFallback) s ↔
      s = [] ∨ NoneLowest v scores ∨ Cuttable v scores s := by
  constructor
  · rintro (hnil | ⟨front, step, hway⟩)
    · exact Or.inl hnil
    · by_cases hnone : NoneLowest v scores
      · exact Or.inr (Or.inl hnone)
      · -- An unknown character has the lowest score, so the last step is a piece.
        have hpiece : ∃ w, step = .piece w := by
          cases step with
          | piece w => exact ⟨w, rfl⟩
          | unknown w => exact hway.piece ((unknown_eq_bot_iff h).2 hnone)
        rcases hpiece with ⟨w, rfl⟩
        rcases exists_pieces h hnone hway.reached with ⟨pieces, rfl, hpieces⟩
        exact Or.inr (Or.inr ⟨pieces, w, hway.text_eq.symm, (fits_iff_proper h).1 hway.fits,
          hpieces⟩)
  · rintro (hnil | hnone | ⟨pieces, last, rfl, hlast, hpieces⟩)
    · exact Or.inl hnil
    · -- Every text has a path, and none of its steps has the lowest score.
      rcases exists_path (free (table v scores dummyPrefix byteFallback)) s with
        ⟨path, hfit, rfl⟩
      exact (reached_spelled hfit fun step hmem => score_ne_bot h hnone (hfit step hmem)).covered
    · refine Or.inr ⟨pieces.flatten, .piece last, reached_flatten h hpieces,
        (fits_iff_proper h).2 hlast, fun _ => ⟨last, rfl⟩, rfl, ?_⟩
      have hpos := List.length_pos_iff.2 hlast.ne_nil
      rw [List.length_append]
      omega

/-! ## Segmentations -/

/-- A text that is made of pieces gets proper steps that cover it. -/
theorem steps_proper (h : scores.length = v.size) {s : List Char}
    (hs : Covered (table v scores dummyPrefix byteFallback) s) :
    (∀ step ∈ steps (table v scores dummyPrefix byteFallback) s, Proper v step) ∧
      spelled (steps (table v scores dummyPrefix byteFallback) s) = s := by
  rcases steps_of_covered (table_bounded h) hs with ⟨hfit, hspelled⟩
  exact ⟨fun step hmem => (fits_iff_proper h).1 (hfit step hmem), hspelled⟩

/-- A text that gets no steps is no proper one either, unless it is a single character. -/
theorem unknown_proper_iff (h : scores.length = v.size) {s : List Char}
    (hs : ¬ Covered (table v scores dummyPrefix byteFallback) s) :
    Proper v (.unknown s) ↔ s.length ≤ 1 := by
  rw [covered_iff h, not_or, not_or] at hs
  constructor
  · rintro ⟨c, rfl, _⟩
    exact Nat.le_refl 1
  · intro hlen
    cases s with
    | nil => exact absurd rfl hs.1
    | cons c rest =>
      have hrest : rest = [] := by
        rw [List.length_cons] at hlen
        exact List.eq_nil_of_length_eq_zero (by omega)
      rw [hrest] at hs ⊢
      -- A single piece is a text that can be cut.
      refine ⟨c, rfl, fun hmatches => hs.2.2 ⟨[], [c], rfl, hmatches, ?_⟩⟩
      exact fun w hmem => absurd hmem List.not_mem_nil

/-- The steps cover the text, and their tokens are its tokens. The steps are proper if no piece
    has the lowest score, if there is one character at most, or if the text is made of pieces of
    which the last alone may have the lowest score. Every other text is one unknown step. -/
theorem proper_or_collapsed {u : Unigram (WithBot ℚ)}
    (h : (ofScores v scores dummyPrefix byteFallback).result = .ok u) (s : List Char) :
    spelled (steps (u.choices v) s) = s ∧
      ((∀ step ∈ steps (u.choices v) s, Proper v step) ↔
        NoneLowest v scores ∨ s.length ≤ 1 ∨ Cuttable v scores s) ∧
      ((∀ step ∈ steps (u.choices v) s, Proper v step) ∨ steps (u.choices v) s = [.unknown s]) ∧
      ∃ parts, List.Forall₂ (Shown v u.byteFallback) (steps (u.choices v) s) parts ∧
        ∀ text, u.mark text = s → u.segment v text = parts.flatten := by
  rcases result_ofScores_eq_ok_iff.1 h with ⟨hcount, rfl⟩
  have hshown : ∃ parts, List.Forall₂
      (Shown v (make v scores dummyPrefix byteFallback).byteFallback)
      (steps (table v scores dummyPrefix byteFallback) s) parts ∧
      ∀ text, (make v scores dummyPrefix byteFallback).mark text = s →
        (make v scores dummyPrefix byteFallback).segment v text = parts.flatten := by
    refine ⟨_, List.forall₂_map_right_iff.2 (List.forall₂_same.2 fun step _ =>
      tokensOf_shown hcount step), ?_⟩
    rintro text rfl
    rw [segment, List.flatMap_def]
  by_cases hcovered : Covered (table v scores dummyPrefix byteFallback) s
  · rcases steps_proper hcount hcovered with ⟨hproper, hspelled⟩
    refine ⟨hspelled, ⟨fun _ => ?_, fun _ => hproper⟩, Or.inl hproper, hshown⟩
    rcases (covered_iff hcount).1 hcovered with rfl | hnone | hcut
    · exact Or.inr (Or.inl (Nat.zero_le 1))
    · exact Or.inl hnone
    · exact Or.inr (Or.inr hcut)
  · -- One unknown step is proper if it is one character, and of no other length.
    have hsteps := steps_of_not_covered (table_bounded hcount) hcovered
    have hproper : (∀ step ∈ steps (table v scores dummyPrefix byteFallback) s, Proper v step) ↔
        s.length ≤ 1 := by
      rw [hsteps, List.forall_mem_singleton]
      exact unknown_proper_iff hcount hcovered
    refine ⟨?_, ⟨fun hall => Or.inr (Or.inl (hproper.1 hall)), ?_⟩, Or.inr hsteps, hshown⟩
    · rw [hsteps, spelled_cons, spelled_nil, List.append_nil]
      rfl
    · rintro (hnone | hlen | hcut)
      · exact absurd ((covered_iff hcount).2 (Or.inr (Or.inl hnone))) hcovered
      · exact hproper.2 hlen
      · exact absurd ((covered_iff hcount).2 (Or.inr (Or.inr hcut))) hcovered

/-- A piece with a number, and behind it one with the lowest score. -/
theorem proper_or_collapsed_of_last : ∃ v u, v.tokens.toList = ["<unk>", "a", "b"] ∧
    (ofScores v [0, ((-1 : ℚ) : WithBot ℚ), ⊥] false false).result = .ok u ∧
    Cuttable v [0, ((-1 : ℚ) : WithBot ℚ), ⊥] ['a', 'b'] ∧
    spelled (steps (u.choices v) ['a', 'b']) = ['a', 'b'] ∧
    ∀ step ∈ steps (u.choices v) ['a', 'b'], Proper v step := by
  have hnodup : ["<unk>", "a", "b"].Nodup := by decide
  rcases Vocabulary.exists_ofUnknown hnodup 0 (by decide) with ⟨v, _, hv, hspecial⟩
  have hids := Vocabulary.specialIds_of_unknown hspecial
  have hpiece : v.get? "a" = some 1 ∧ isPiece v 1 "a" = true := by
    rw [Vocabulary.get?_eq_some_iff, v.token?_eq_getElem?, hv, isPiece, Vocabulary.isSpecial, hids]
    decide
  have hlast : Matches v ['b'] := by
    refine ⟨2, ?_⟩
    rw [Vocabulary.get?_eq_some_iff, v.token?_eq_getElem?, hv, isPiece, Vocabulary.isSpecial, hids]
    decide
  have hcut : Cuttable v [0, ((-1 : ℚ) : WithBot ℚ), ⊥] ['a', 'b'] := by
    refine ⟨[['a']], ['b'], rfl, hlast, fun w hw => ⟨-1, ?_⟩⟩
    rw [List.mem_singleton.1 hw, pieceScore?, show String.ofList ['a'] = "a" from rfl, hpiece.1,
      Option.bind_some, if_pos hpiece.2]
    rfl
  have hu := (@result_ofScores_eq_ok_iff _ _ v [0, ((-1 : ℚ) : WithBot ℚ), ⊥] false false _).2
    ⟨by rw [v.size_eq_length, hv]; rfl, rfl⟩
  rcases proper_or_collapsed hu ['a', 'b'] with ⟨hspelled, hproper, _⟩
  exact ⟨v, _, hv, hu, hcut, hspelled, hproper.2 (Or.inr (Or.inr hcut))⟩

/-- Two characters in a row that are no pieces, beside a piece with the lowest score: they are one
    unknown step, and one unknown token. -/
theorem exists_collapsed : ∃ v u, v.tokens.toList = ["<unk>", "a"] ∧
    (ofScores v [(0 : WithBot ℚ), ⊥] false false).result = .ok u ∧
    steps (u.choices v) ['x', 'y'] = [.unknown ['x', 'y']] ∧
    ¬ Proper v (.unknown ['x', 'y']) ∧
    u.segment v ['x', 'y'] = ["<unk>"] := by
  have hnodup : ["<unk>", "a"].Nodup := by decide
  rcases Vocabulary.exists_ofUnknown hnodup 0 (by decide) with ⟨v, _, hv, hspecial⟩
  have hids := Vocabulary.specialIds_of_unknown hspecial
  have hsize : [(0 : WithBot ℚ), ⊥].length = v.size := by
    rw [v.size_eq_length, hv]
    rfl
  have hpiece : v.get? "a" = some 1 ∧ isPiece v 1 "a" = true := by
    rw [Vocabulary.get?_eq_some_iff, v.token?_eq_getElem?, hv, isPiece, Vocabulary.isSpecial, hids]
    decide
  have hlowest : ¬ NoneLowest v [(0 : WithBot ℚ), ⊥] := by
    refine fun hnone => hnone "a" ?_
    rw [pieceScore?, hpiece.1, Option.bind_some, if_pos hpiece.2]
    rfl
  -- No token ends in the last character of the text.
  have hcut : ¬ Cuttable v [(0 : WithBot ℚ), ⊥] ['x', 'y'] := by
    rintro ⟨front, last, heq, ⟨id, hget, _⟩, _⟩
    rw [Vocabulary.get?_eq_some_iff, v.token?_eq_getElem?, hv] at hget
    have hend := congrArg List.getLast? heq
    rw [List.getLast?_append, ← @String.toList_ofList last] at hend
    rcases List.mem_pair.1 (List.mem_of_getElem? hget) with hlast | hlast
    · rw [hlast] at hend
      have hchar : some 'y' = some '>' := hend
      exact absurd (Option.some.inj hchar) (by decide)
    · rw [hlast] at hend
      have hchar : some 'y' = some 'a' := hend
      exact absurd (Option.some.inj hchar) (by decide)
  have hcovered : ¬ Covered (table v [(0 : WithBot ℚ), ⊥] false false) ['x', 'y'] := by
    rw [covered_iff hsize, not_or, not_or]
    exact ⟨List.cons_ne_nil _ _, hlowest, hcut⟩
  have hsteps := steps_of_not_covered (table_bounded hsize) hcovered
  refine ⟨v, _, hv, (@result_ofScores_eq_ok_iff _ _ v _ false false _).2 ⟨hsize, rfl⟩, hsteps,
    ?_, ?_⟩
  · rintro ⟨c, heq, _⟩
    cases heq
  · have hmark : (make v [(0 : WithBot ℚ), ⊥] false false).mark ['x', 'y'] = ['x', 'y'] := rfl
    have hunk : v.unkToken = "<unk>" := by
      have htoken := v.token?_unk
      rw [v.token?_eq_getElem?, hv, hspecial] at htoken
      exact (Option.some.inj htoken).symm
    rw [segment, hmark, hsteps, List.flatMap_singleton, tokensOf, unknownTokens, if_neg, hunk]
    exact Bool.false_ne_true

end Unigram

end Subword
