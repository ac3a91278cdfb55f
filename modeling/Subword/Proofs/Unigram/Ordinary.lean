import Subword.Proofs.Encoding
import Subword.Proofs.Segmentation.Pieces
import Subword.Proofs.Unigram.Best

/-!
# What text cannot spell

Text in which no special tokens are looked for brings up none of them, whatever
it says: the name of a special token is segmented like any other word, into
tokens that are not special. The one exception is the unknown token, which
stands for what no piece matches, and it does not come up either when such text
is spelled in bytes.

Three things come together here. Pieces are made of tokens that are not special,
and the search makes no pieces up. The tokens for bytes are not special. And a
token is looked up under its own id, so that what is not special as a token is
not special as an id. The scores have no part in it, so they are left open.

## Main definitions

* `Unigram.Ordinary`: A token that text can bring up.

## Theorems

* `Unigram.ordinary_of_mem_segment`: The tokens of a text are such.
* `Unigram.Ordinary.lookup`: What their ids can be.
* `Unigram.encode_ordinary`: The ids inside a sequence are not special.
-/

namespace Subword

namespace Unigram

variable {S : Type} {v : Vocabulary} {dummyPrefix byteFallback : Bool} {token : String}

/-- A token that text can bring up: one that is not special, or the unknown one where bytes are
    not spelled. -/
def Ordinary (v : Vocabulary) (byteFallback : Bool) (token : String) : Prop :=
  (∃ id, v.token? id = some token ∧ v.isSpecial id = false) ∨
    byteFallback = false ∧ token = v.unkToken

/-- What the ids of such tokens can be. -/
theorem Ordinary.lookup (h : Ordinary v byteFallback token) :
    (v.isSpecial (v.lookup token) = true → v.lookup token = v.special.unk) ∧
      (byteFallback = true → v.lookup token ≠ v.special.unk) := by
  rcases h with ⟨id, htoken, hspecial⟩ | ⟨hoff, rfl⟩
  · rw [Vocabulary.lookup_eq htoken, hspecial]
    refine ⟨fun h => absurd h Bool.false_ne_true, ?_⟩
    rintro _ rfl
    rw [v.isSpecial_unk] at hspecial
    exact Bool.false_ne_true hspecial.symm
  · rw [Vocabulary.lookup_eq v.token?_unk, hoff]
    exact ⟨fun _ => rfl, fun h => absurd h Bool.false_ne_true⟩

variable [Score S] {scores : List S}

/-- A text with a score is a token that is not special. -/
theorem exists_id_of_score? (h : scores.length = v.size) {piece : String}
    (hscore : ((make v scores dummyPrefix byteFallback).score? v piece).isSome = true) :
    ∃ id, v.token? id = some piece ∧ v.isSpecial id = false := by
  cases hget : v.get? piece with
  | none =>
    unfold score? at hscore
    rw [hget] at hscore
    exact absurd hscore Bool.false_ne_true
  | some id =>
    rw [score?_make_of_get? h hget] at hscore
    refine ⟨id, Vocabulary.get?_eq_some_iff.1 hget, ?_⟩
    cases hspecial : v.isSpecial id with
    | false => rfl
    | true =>
      rw [isPiece, hspecial] at hscore
      exact absurd hscore Bool.false_ne_true

/-- The tokens of a text are ordinary. -/
theorem ordinary_of_mem_segment (h : scores.length = v.size) {s : List Char}
    (hmem : token ∈ (make v scores dummyPrefix byteFallback).segment v s) :
    Ordinary v (make v scores dummyPrefix byteFallback).byteFallback token := by
  rcases List.mem_flatMap.1 hmem with ⟨step, hstep, htoken⟩
  cases step with
  | piece w =>
    rw [List.mem_singleton.1 htoken]
    exact Or.inl (exists_id_of_score? h (Segmentation.score?_of_mem_steps hstep))
  | unknown w =>
    have hunknown : token ∈ (make v scores dummyPrefix byteFallback).unknownTokens v w := htoken
    unfold unknownTokens at hunknown
    cases hactive : (make v scores dummyPrefix byteFallback).byteFallback with
    | true =>
      rw [if_pos hactive] at hunknown
      rcases List.mem_map.1 hunknown with ⟨b, _, rfl⟩
      rcases exists_byteToken h hactive b with ⟨token, hget, _, hordinary⟩
      rw [hget]
      exact Or.inl hordinary
    | false =>
      rw [hactive, if_neg Bool.false_ne_true] at hunknown
      exact Or.inr ⟨rfl, List.mem_singleton.1 hunknown⟩

variable {t : Tokenizer S} {u : Unigram S} {policy : Option SpecialPolicy}

/-- Where no special tokens are looked for in a text, tokenizing succeeds, and of the ids inside
    a sequence none is special but the unknown one. Nor is it that one where bytes are spelled. -/
theorem encode_ordinary
    (hu : (ofScores t.vocabulary scores dummyPrefix byteFallback).result = .ok u)
    (hmodel : t.model = .unigram u)
    (hpolicy : policy.or t.policy = none ∨ policy.or t.policy = some .none) (text : String)
    (options : Option Config) :
    (∃ tokens, (t.tokenize text options policy).result = .ok tokens) ∧
      ∀ encoded, (t.encode text options policy).result = .ok encoded →
        ∀ i id : Nat, encoded.mask[i]? = some 0 → encoded.ids[i]? = some id →
          (t.vocabulary.isSpecial id = true → id = t.vocabulary.special.unk) ∧
            (u.byteFallback = true → id ≠ t.vocabulary.special.unk) := by
  rcases result_ofScores_eq_ok_iff.1 hu with ⟨hcount, rfl⟩
  have htokenize : (t.tokenize text options policy).result
      = .ok ((make t.vocabulary scores dummyPrefix byteFallback).segment t.vocabulary
        (t.normalize (options.getD t.config) text.toList)) := by
    rw [Tokenizer.result_tokenize_plain hpolicy, Tokenizer.segmentTokens, Tokenizer.segment, hmodel]
  refine ⟨⟨_, htokenize⟩, ?_⟩
  intro encoded hencoded i id hmask hid
  -- An id with a zero in the mask is that of one of the tokens, cut to length or not.
  rcases Tokenizer.exists_fits t text options policy hencoded with ⟨tokens, kept, htokens, hfits⟩
  rw [htokenize, Except.ok.injEq] at htokens
  rcases hfits.exists_of_mask hmask hid with ⟨token, hmem, rfl⟩
  rw [← htokens] at hmem
  exact (ordinary_of_mem_segment hcount hmem).lookup

/-- The name of the start token as text. -/
theorem encode_ordinary_of_control : ∃ t : Tokenizer Float,
    t.vocabulary.tokens.toList = ["<unk>", "<s>", "</s>", "s", "▁"] ∧
    t.vocabulary.special.bos = some 1 ∧
    ∃ encoded, (t.encode "<s>s" none none).result = .ok encoded ∧
      ∀ i : Nat, encoded.mask[i]? = some 0 → encoded.ids[i]? ≠ some 1 := by
  have hnodup : ["<unk>", "<s>", "</s>", "s", "▁"].Nodup := by decide
  rcases Vocabulary.exists_ofBounds hnodup (by decide) with ⟨v, hv, hspecial, hids⟩
  have hcount : [0.0, 0.0, 0.0, -1.0, -2.0].length = v.size := by
    rw [v.size_eq_length, hv]
    rfl
  let u : Unigram Float := make v [0.0, 0.0, 0.0, -1.0, -2.0] true false
  have hu : (ofScores v [0.0, 0.0, 0.0, -1.0, -2.0] true false).result = .ok u :=
    result_ofScores_eq_ok_iff.2 ⟨hcount, rfl⟩
  let t : Tokenizer Float := ⟨v, Config.uncapped true, true, true, none, .unigram u⟩
  have hplain : Option.none.or t.policy = Option.none ∨ Option.none.or t.policy = some .none :=
    Or.inl rfl
  have hadmits : ∀ count, t.config.Admits count := by
    intro count cap hcap
    cases hcap
  rcases encode_ordinary hu (t := t) rfl hplain "<s>s" none with ⟨⟨tokens, htokens⟩, hall⟩
  have hencode := Tokenizer.result_encode_of_admits t "<s>s" none none (hadmits _)
  rw [htokens] at hencode
  refine ⟨t, hv, by rw [hspecial], _, hencode, ?_⟩
  intro i hmask hid
  have hone : v.isSpecial 1 = true := by
    rw [Vocabulary.isSpecial_iff, hids]
    decide
  have hunk := (hall _ hencode i 1 hmask hid).1 hone
  rw [hspecial] at hunk
  exact absurd hunk (by decide)

end Unigram

end Subword
