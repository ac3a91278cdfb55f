import Subword.Proofs.Tokenizer
import Subword.Proofs.Unigram.Joining

/-!
# A text comes back with its white space as spaces

The tokens of a text can be put together again when each of its unknown
characters is spelled in bytes and none of them is the marker. A tokenizer
with byte fallback and the marker among its pieces takes care of both, and for
any other it is enough that the unknown token does not come up.

## Main definitions

* `Unigram.MarkerMatches`: The marker is a piece.
* `Unigram.ComesBack`: A text that comes back from its ids.

## Theorems

* `Unigram.legible_tokensOf`: The tokens of a step can be put together again.
* `Unigram.unkToken_notMem`: A text of pieces has no unknown token.
* `Unigram.decode_encode_blanked`: A text comes back from its ids.
-/

namespace Subword

namespace Unigram

variable {S : Type} {u : Unigram S} {v : Vocabulary}

/-- Whether the marker is matched as a piece of its own. -/
def MarkerMatches (v : Vocabulary) : Prop :=
  ∃ id, v.get? (String.ofList [marker]) = some id ∧
    isPiece v id (String.ofList [marker]) = true

section

variable {scores : List ℚ} {dummyPrefix byteFallback : Bool}

/-- The tokens of a step can be put together again, for an unknown character if it is spelled in
    bytes and is surely no marker. -/
theorem legible_tokensOf (hcount : scores.length = v.size) {step : Segmentation.Step}
    (hfits : step.Fits (prices v scores))
    (hunknown : ∀ s, step = .unknown s →
      (make v (exact scores) dummyPrefix byteFallback).byteFallback = true ∧ MarkerMatches v) :
    Legible v step ((make v (exact scores) dummyPrefix byteFallback).tokensOf v step) := by
  cases step with
  | piece s =>
    rcases exists_piece hfits.2 with ⟨id, hget, hpiece⟩
    exact .piece s id hget hpiece
  | unknown s =>
    -- The marker is a piece and the character is not, so they differ.
    rcases hunknown s rfl with ⟨hactive, id, hget, hpiece⟩
    rcases hfits with ⟨c, rfl, hnone⟩
    refine .bytes c _ ?_ (unknownTokens_spell (by rw [length_exact, hcount]) hactive [c])
    rintro rfl
    exact price?_ne_none hcount hget hpiece hnone

/-- A text of which every character is a piece has no unknown token. -/
theorem unkToken_notMem (hcount : scores.length = v.size) {s : List Char}
    (hpieces : ∀ c ∈ (make v (exact scores) dummyPrefix byteFallback).mark s,
      price? v scores (String.ofList [c]) ≠ none) :
    v.unkToken ∉ (make v (exact scores) dummyPrefix byteFallback).segment v s := by
  have hbest := Segmentation.steps_bestPath (@choices_agree v dummyPrefix byteFallback _ hcount)
    ((make v (exact scores) dummyPrefix byteFallback).mark s)
  intro hmem
  rcases List.mem_flatMap.1 hmem with ⟨step, hstep, htoken⟩
  have hfits := hbest.fit step hstep
  cases step with
  | piece piece =>
    -- The unknown token is special, so it is no piece.
    rcases exists_piece hfits.2 with ⟨id, hget, hpiece⟩
    rw [← List.mem_singleton.1 htoken, Vocabulary.get?_eq_some_iff.2 v.token?_unk,
      Option.some.injEq] at hget
    rw [isPiece, ← hget, v.isSpecial_unk] at hpiece
    exact Bool.false_ne_true hpiece
  | unknown text =>
    rcases hfits with ⟨c, rfl, hnone⟩
    refine hpieces c ?_ hnone
    rw [← hbest.spelled_eq]
    exact List.mem_flatMap.2 ⟨_, hstep, List.mem_singleton_self c⟩

end

variable {t : Tokenizer S} [Score S]

/-- A text comes back from its ids: without special tokens as it is blanked, and with them
    between those for the start and the end, where these go around it. -/
def ComesBack (t : Tokenizer S) (dummyPrefix : Bool) (text : String) (config : Option Config) :
    Prop :=
  ∃ encoded, (t.encode text config).result = .ok encoded ∧
    t.decode (encoded.ids.map Int.ofNat) true
      = .ok (String.ofList (blanked dummyPrefix text.toList)) ∧
    t.decode (encoded.ids.map Int.ofNat) false
      = .ok (String.join ((t.startIds (config.getD t.config)).map t.tokenOf) ++
        String.ofList (blanked dummyPrefix text.toList) ++
        String.join ((t.endIds (config.getD t.config)).map t.tokenOf))

theorem segmentTokens_plain (hmodel : t.model = .unigram u) {config : Config}
    (hlower : config.lowercase = false) (s : List Char) :
    t.segmentTokens config (.plain s) = u.segment t.vocabulary s := by
  simp only [Tokenizer.segmentTokens, Tokenizer.segment, Tokenizer.normalize, hmodel, hlower,
    Bool.false_eq_true, if_false]

/-- The tokens of a text without a policy. -/
theorem result_tokenize (hmodel : t.model = .unigram u) (hpolicy : t.policy = none)
    {text : String} {config : Option Config}
    (hlower : (config.getD t.config).lowercase = false) :
    (t.tokenize text config).result = .ok (u.segment t.vocabulary text.toList) := by
  rw [Tokenizer.result_tokenize_none hpolicy, ← Tokenizer.segmentTokens,
    segmentTokens_plain hmodel hlower]

theorem comesBack_of_legible (hmodel : t.model = .unigram u) (hpolicy : t.policy = none)
    {text : String} {config : Option Config} (hlower : (config.getD t.config).lowercase = false)
    (hcap : (config.getD t.config).cap = none) {path : List Segmentation.Step}
    {parts : List (List String)} (hpath : List.Forall₂ (Legible t.vocabulary) path parts)
    (hspelled : Segmentation.spelled path = u.mark text.toList)
    (hsegment : u.segment t.vocabulary text.toList = parts.flatten) :
    ComesBack t u.dummyPrefix text config := by
  have htokens : [Text.Segment.plain text.toList].flatMap
      (t.segmentTokens (config.getD t.config)) = parts.flatten := by
    rw [List.flatMap_singleton, segmentTokens_plain hmodel hlower, hsegment]
  have hordinary : ∀ token ∈ parts.flatten, ∃ id, t.vocabulary.token? id = some token ∧
      t.vocabulary.isSpecial id = false :=
    fun _ => exists_id_of_legible hpath
  have hjoin : ∀ tokens, t.join tokens = u.join tokens := by
    intro tokens
    rw [Tokenizer.join, hmodel]
  refine ⟨_, Tokenizer.encode_eq hcap (Tokenizer.split_none hpolicy _), ?_, ?_⟩
  · rw [htokens, Tokenizer.decode_wrap_skip _ _ hordinary, hjoin]
    have hjoined := join_eq hpath hspelled [] []
    rw [List.map_nil, List.nil_append, List.append_nil] at hjoined
    rw [hjoined]
    simp only [String.join_nil, String.empty_append, String.append_empty]
  · have hstart := Tokenizer.map_known_special fun _ =>
      @Tokenizer.startIds_mem S t (config.getD t.config) _
    have hend := Tokenizer.map_known_special fun _ =>
      @Tokenizer.endIds_mem S t (config.getD t.config) _
    rw [Tokenizer.decode_wrap, htokens, hstart, hend, Tokenizer.map_known_lookup hordinary,
      Tokenizer.joinKept, if_neg Bool.false_ne_true, hjoin, join_eq hpath hspelled]

/-- A text comes back from its ids if none of its tokens is the unknown one and the marker is not
    spelled in bytes, and so does every text if there are tokens for bytes and the marker. -/
theorem decode_encode_blanked {scores : List ℚ} {own : Config}
    {addStart addEnd dummyPrefix byteFallback : Bool} {t : Tokenizer (WithBot ℚ)}
    (h : (Tokenizer.ofUnigram v own addStart addEnd (exact scores) dummyPrefix
      byteFallback).result = .ok t) (text : String) (config : Option Config)
    (hlower : (config.getD own).lowercase = false) (hcap : (config.getD own).cap = none) :
    ∃ u, t.model = .unigram u ∧
      ((∀ tokens, (t.tokenize text config).result = .ok tokens → v.unkToken ∉ tokens) →
        (MarkerMatches v ∨ u.byteFallback = false) → ComesBack t dummyPrefix text config) ∧
      (u.byteFallback = true → MarkerMatches v → ComesBack t dummyPrefix text config) := by
  rcases Outcome.result_bind_eq_ok_iff.1 h with ⟨u, hu, ht⟩
  rw [Outcome.result_pure, Except.ok.injEq] at ht
  rcases result_ofScores_eq_ok_iff.1 hu with ⟨hexact, rfl⟩
  have hcount : scores.length = v.size := by
    rw [← hexact, length_exact]
  subst ht
  let u := make v (exact scores) dummyPrefix byteFallback
  let t : Tokenizer (WithBot ℚ) := ⟨v, own, addStart, addEnd, none, .unigram u⟩
  let path := Segmentation.steps (u.choices v) (u.mark text.toList)
  have hbest : Segmentation.BestPath (prices v scores) (u.mark text.toList) path :=
    Segmentation.steps_bestPath (choices_agree hcount) _
  have hsegment : u.segment v text.toList = (path.map (u.tokensOf v)).flatten :=
    List.flatMap_def
  have hback : (∀ step ∈ path, ∀ s, step = .unknown s →
      u.byteFallback = true ∧ MarkerMatches v) → ComesBack t dummyPrefix text config := by
    intro hunknown
    have hlegible : List.Forall₂ (Legible v) path (path.map (u.tokensOf v)) := by
      rw [List.forall₂_map_right_iff, List.forall₂_same]
      exact fun step hstep =>
        legible_tokensOf hcount (hbest.fit step hstep) (hunknown step hstep)
    exact comesBack_of_legible (t := t) rfl rfl hlower hcap hlegible hbest.spelled_eq hsegment
  refine ⟨u, rfl, ?_, fun hactive hmarker => hback fun _ _ _ _ => ⟨hactive, hmarker⟩⟩
  intro hknown hmarker
  apply hback
  rintro step hstep s rfl
  cases hactive : u.byteFallback with
  | true =>
    rw [hactive] at hmarker
    exact ⟨rfl, hmarker.resolve_right Bool.noConfusion⟩
  | false =>
    -- Without byte fallback the unknown step would be the unknown token.
    have htokens : (t.tokenize text config).result = .ok (u.segment v text.toList) :=
      result_tokenize rfl rfl hlower
    have hunknown : v.unkToken ∈ u.tokensOf v (.unknown s) := by
      rw [tokensOf, unknownTokens, hactive]
      exact List.mem_singleton_self _
    exact absurd (List.mem_flatMap.2 ⟨_, hstep, hunknown⟩) (hknown _ htokens)

/-- A text with a tab and a marker, between the tokens for the start and the end. -/
theorem decode_encode_blanked_of_tab : ∃ (v : Vocabulary) (t : Tokenizer (WithBot ℚ)),
    v.tokens.toList = ["<unk>", "<s>", "</s>", "▁", "a"] ∧
    (Tokenizer.ofUnigram v (Config.uncapped true) true true (exact [0, 0, 0, -1, -1]) true
      false).result = .ok t ∧
    ∃ encoded, (t.encode "a\ta▁a").result = .ok encoded ∧
      t.decode (encoded.ids.map Int.ofNat) true = .ok "a a a" ∧
      t.decode (encoded.ids.map Int.ofNat) false = .ok "<s>a a a</s>" := by
  have htokens : ["<unk>", "<s>", "</s>", "▁", "a"].Nodup := by decide
  rcases Vocabulary.exists_ofBounds htokens (by decide) with ⟨v, hv, hspecial, hids⟩
  have htoken := Vocabulary.token?_of_toList hv
  have hcount : [(0 : ℚ), 0, 0, -1, -1].length = v.size := by
    rw [v.size_eq_length, hv]
    rfl
  have hmarker : v.get? (String.ofList [marker]) = some 3 ∧
      isPiece v 3 (String.ofList [marker]) = true := by
    rw [Vocabulary.get?_eq_some_iff, htoken, isPiece, Vocabulary.isSpecial, hids]
    decide
  have hletter : v.get? (String.ofList ['a']) = some 4 ∧
      isPiece v 4 (String.ofList ['a']) = true := by
    rw [Vocabulary.get?_eq_some_iff, htoken, isPiece, Vocabulary.isSpecial, hids]
    decide
  have hu := (@result_ofScores_eq_ok_iff _ _ v (exact [0, 0, 0, -1, -1]) true false _).2
    ⟨by rw [length_exact, hcount], rfl⟩
  have ht : (Tokenizer.ofUnigram v (Config.uncapped true) true true (exact [0, 0, 0, -1, -1])
      true false).result = .ok ⟨v, Config.uncapped true, true, true, none,
        .unigram (make v (exact [0, 0, 0, -1, -1]) true false)⟩ := by
    rw [Tokenizer.ofUnigram, Outcome.result_bind, hu]
    rfl
  have hknown : v.unkToken ∉ (make v (exact [0, 0, 0, -1, -1]) true false).segment v
      "a\ta▁a".toList := by
    apply unkToken_notMem hcount
    have hmark : (make v (exact [0, 0, 0, -1, -1]) true false).mark "a\ta▁a".toList
        = [marker, 'a', marker, 'a', marker, 'a'] := rfl
    have hall : ∀ c ∈ [marker, 'a', marker, 'a', marker, 'a'], c = marker ∨ c = 'a' := by
      simp
    rw [hmark]
    intro c hc
    rcases hall c hc with rfl | rfl
    · exact price?_ne_none hcount hmarker.1 hmarker.2
    · exact price?_ne_none hcount hletter.1 hletter.2
  rcases decode_encode_blanked ht "a\ta▁a" none rfl rfl with ⟨_, hmodel, hback, _⟩
  rcases Model.unigram.inj hmodel with rfl
  have hcomes := hback (fun tokens htokenize => by
    rw [result_tokenize rfl rfl rfl, Except.ok.injEq] at htokenize
    rwa [← htokenize]) (Or.inr rfl)
  rcases hcomes with ⟨encoded, hencoded, hskipped, hwhole⟩
  refine ⟨v, _, hv, ht, encoded, hencoded, hskipped, ?_⟩
  rw [hwhole]
  show Except.ok (String.join (v.special.bos.toList.map fun id => (v.token? id).getD v.unkToken)
    ++ "a a a" ++ String.join (v.special.eos.toList.map fun id => (v.token? id).getD v.unkToken))
    = _
  simp only [hspecial, htoken]
  rfl

end Unigram

end Subword
