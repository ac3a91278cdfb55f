import Subword.Proofs.Segmentation.Trace
import Subword.Proofs.Unigram.Pieces

/-!
# The tokens of the best segmentation

A unigram tokenizer whose scores are exact segments a text in the best way. The
pieces and their prices are those of the vocabulary and the scores, so the
result does not mention the tables that the search looks things up in. Which
tokens stand for a step is said by a relation: a piece stands for itself, and an
unknown character is the unknown token, or one token for each of its bytes.

## Main definitions

* `Unigram.Shown`: The tokens that stand for a step.

## Theorems

* `Unigram.tokensOf_shown`: A step is shown by its tokens.
* `Unigram.best_segmentation`: A text is segmented in the best way.
-/

namespace Subword

namespace Unigram

variable {v : Vocabulary} {dummyPrefix byteFallback : Bool}

/-- The tokens that stand for a step. With byte fallback, an unknown character is spelled in
    tokens for its bytes. -/
inductive Shown (v : Vocabulary) (byteFallback : Bool) : Segmentation.Step → List String → Prop
  | piece (s : List Char) : Shown v byteFallback (.piece s) [String.ofList s]
  | unknown (s : List Char) (off : byteFallback = false) :
      Shown v byteFallback (.unknown s) [v.unkToken]
  | bytes (s : List Char) (tokens : List String) (on : byteFallback = true)
      (spell : List.Forall₂ (SpellsByte v) (Text.Utf8.encode s) tokens) :
      Shown v byteFallback (.unknown s) tokens

/-- With byte fallback, the bytes of a text have one token each. -/
theorem unknownTokens_spell {S : Type} [Score S] {scores : List S}
    (h : scores.length = v.size)
    (hactive : (make v scores dummyPrefix byteFallback).byteFallback = true) (s : List Char) :
    List.Forall₂ (SpellsByte v) (Text.Utf8.encode s)
      ((make v scores dummyPrefix byteFallback).unknownTokens v s) := by
  unfold unknownTokens
  rw [if_pos hactive, List.forall₂_map_right_iff, List.forall₂_same]
  intro b _
  rcases exists_byteToken h hactive b with ⟨token, hget, hspell⟩
  rw [hget]
  exact hspell

/-- A step is shown by its tokens. -/
theorem tokensOf_shown {S : Type} [Score S] {scores : List S} (h : scores.length = v.size)
    (step : Segmentation.Step) :
    Shown v (make v scores dummyPrefix byteFallback).byteFallback step
      ((make v scores dummyPrefix byteFallback).tokensOf v step) := by
  cases step with
  | piece s => exact .piece s
  | unknown s =>
    cases hactive : (make v scores dummyPrefix byteFallback).byteFallback with
    | true => exact .bytes s _ rfl (unknownTokens_spell h hactive s)
    | false =>
      have htokens : (make v scores dummyPrefix byteFallback).tokensOf v (.unknown s)
          = [v.unkToken] := by
        unfold tokensOf unknownTokens
        rw [hactive]
        rfl
      rw [htokens]
      exact .unknown s rfl

/-- A text is segmented in the best way, and its tokens stand for the steps from left to right. -/
theorem best_segmentation {scores : List ℚ} {u : Unigram (WithBot ℚ)}
    (h : (ofScores v (exact scores) dummyPrefix byteFallback).result = .ok u) (s : List Char) :
    Segmentation.BestPath (prices v scores) s (Segmentation.steps (u.choices v) s) ∧
      ∃ parts, List.Forall₂ (Shown v u.byteFallback) (Segmentation.steps (u.choices v) s) parts ∧
        (Segmentation.steps (u.choices v) s).flatMap (u.tokensOf v) = parts.flatten ∧
        ∀ text, u.mark text = s → u.segment v text = parts.flatten := by
  rcases result_ofScores_eq_ok_iff.1 h with ⟨hcount, rfl⟩
  have hsize : scores.length = v.size := by
    rw [← hcount, length_exact]
  refine ⟨Segmentation.steps_bestPath (choices_agree hsize) s, _, ?_, List.flatMap_def, ?_⟩
  · rw [List.forall₂_map_right_iff, List.forall₂_same]
    exact fun step _ => tokensOf_shown hcount step
  · rintro text rfl
    rw [segment, List.flatMap_def]

/-- Where two pieces are as good as one and the last character is no piece. -/
theorem best_segmentation_of_tie : ∃ v u, v.tokens.toList = ["<unk>", "a", "b", "ab"] ∧
    (ofScores v (exact [0, -1, -1, -2]) true false).result = .ok u ∧
    Segmentation.BestPath (prices v [0, -1, -1, -2]) ['a', 'b', '!']
      (Segmentation.steps (u.choices v) ['a', 'b', '!']) ∧
    ∃ parts, List.Forall₂ (Shown v u.byteFallback)
        (Segmentation.steps (u.choices v) ['a', 'b', '!']) parts ∧
      (Segmentation.steps (u.choices v) ['a', 'b', '!']).flatMap (u.tokensOf v) = parts.flatten ∧
      ∀ text, u.mark text = ['a', 'b', '!'] → u.segment v text = parts.flatten := by
  have hnodup : ["<unk>", "a", "b", "ab"].Nodup := by decide
  rcases Vocabulary.exists_ofUnknown hnodup 0 (by decide) with ⟨v, _, hv, _⟩
  have hsize : (exact [0, -1, -1, -2]).length = v.size := by
    rw [v.size_eq_length, hv]
    rfl
  have hu := (@result_ofScores_eq_ok_iff _ _ v _ true false _).2 ⟨hsize, rfl⟩
  exact ⟨v, _, hv, hu, best_segmentation hu _⟩

end Unigram

end Subword
