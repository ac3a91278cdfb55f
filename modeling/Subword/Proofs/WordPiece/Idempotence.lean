import Subword.Proofs.Encoding
import Subword.Proofs.WordPiece.Cleaned
import Subword.Proofs.WordPiece.RoundTrip

/-!
# Normalising again

A text that has been normalised is normalised again when what was decoded comes
back to be encoded. Putting tokens together takes marks off them and puts spaces
between them, so a decoded text is made of characters of the normalised text and
of spaces. Every step leaves these as they are. What normalising such a text can
still change is the order of marks, and only where accents are dropped.

Special tokens are left out of a decoded text, whether they stand around it or
were set apart in it. The unknown token is one of them, so nothing else than
pieces of words is put together.

## Main definitions

* `Tokenizer.ordinary`: The tokens that are left when special tokens are skipped.
* `WordPiece.MadeOf`: A token made of characters of some kind, but for the mark.

## Theorems

* `Tokenizer.decode_wrap_ordinary`: The ids of a sequence are decoded without special tokens.
* `WordPiece.forall_mem_join`: Tokens made of such characters are joined to a text of them.
* `WordPiece.exists_decode`: What the ids of a text are decoded to.
* `WordPiece.normalize_repeated`: What normalising does to a text that has been normalised, or
  decoded.
-/

namespace Subword

/-! ## Ordinary tokens -/

namespace Tokenizer

variable {S : Type} {t : Tokenizer S}

/-- Those of some tokens that are in the vocabulary and are not special. -/
def ordinary (t : Tokenizer S) (tokens : List String) : List String :=
  tokens.filter fun token => !t.vocabulary.isSpecial (t.vocabulary.lookup token)

theorem mem_ordinary {tokens : List String} {token : String} : token ∈ t.ordinary tokens ↔
    token ∈ tokens ∧ t.vocabulary.isSpecial (t.vocabulary.lookup token) = false := by
  rw [ordinary, List.mem_filter, Bool.not_eq_true']

/-- Nothing is left of special ids if special tokens are to be skipped. -/
theorem filter_known_special {ids : List Nat} (h : ∀ id ∈ ids, id ∈ t.vocabulary.specialIds) :
    (ids.map t.known).filter (fun token => !token.2) = [] := by
  rw [List.filter_eq_nil_iff, List.forall_mem_map]
  intro id hid
  rw [known, Vocabulary.isSpecial_iff.2 (h id hid)]
  exact Bool.false_ne_true

/-- The ordinary ones among some tokens are left as they are. -/
theorem filter_known_lookup (t : Tokenizer S) (tokens : List String) :
    (tokens.map fun token => t.known (t.vocabulary.lookup token)).filter (fun token => !token.2)
      = (t.ordinary tokens).map fun token => (token, false) := by
  rw [List.filter_map]
  apply List.map_congr_left
  intro token htoken
  rcases Vocabulary.exists_id_of_lookup (mem_ordinary.1 htoken).2 with ⟨id, hid, hspecial⟩
  rw [known_lookup hid, hspecial]

/-- What is in a sequence is decoded without its special tokens, if they are to be skipped. -/
theorem decode_wrap_ordinary (config : Config) (tokens : List String) (truncated : Nat) :
    t.decode ((t.wrap config tokens truncated).ids.map Int.ofNat) true
      = .ok (t.join ((t.ordinary tokens).map fun token => (token, false))) := by
  rw [decode_wrap, joinKept, if_pos rfl, List.filter_append, List.filter_append,
    filter_known_special fun _ => startIds_mem, filter_known_special fun _ => endIds_mem,
    filter_known_lookup, List.nil_append, List.append_nil]

end Tokenizer

namespace WordPiece

variable {S : Type} {t : Tokenizer S} {w : WordPiece} {v : Vocabulary} {s : List Char}
  {token : String} {P : Char → Prop}

/-! ## Joining -/

/-- A token that is made of characters of some kind, but for a mark in front. -/
def MadeOf (w : WordPiece) (P : Char → Prop) (token : String) : Prop :=
  ∃ part : List Char, (∀ c ∈ part, P c) ∧
    (token = String.ofList part ∨ token = w.mark ++ String.ofList part)

/-- What is behind the mark of such a token, if there is a mark to be taken off, and all of the
    token otherwise. -/
theorem MadeOf.forall_mem (h : w.MadeOf P token) :
    (∀ c ∈ token.toList.drop w.mark.toList.length, P c) ∧
      ((!w.mark.toList.isEmpty && w.mark.toList.isPrefixOf token.toList) = false →
        ∀ c ∈ token.toList, P c) := by
  rcases h with ⟨part, hpart, rfl | rfl⟩
  · rw [String.toList_ofList]
    exact ⟨fun c hc => hpart c (List.mem_of_mem_drop hc), fun _ => hpart⟩
  · rw [String.toList_append, String.toList_ofList, List.drop_left]
    refine ⟨hpart, ?_⟩
    intro hmark
    -- The mark is in front, so it is not taken off only if it is empty.
    rw [List.isPrefixOf_iff_prefix.2 (List.prefix_append _ _), Bool.and_true, Bool.not_eq_false',
      List.isEmpty_iff] at hmark
    rwa [hmark, List.nil_append]

theorem forall_mem_joinStep (hspace : P ' ') {done : Bool × List Char}
    (hdone : ∀ c ∈ done.2, P c) (h : w.MadeOf P token) :
    ∀ c ∈ (w.joinStep done (token, false)).2, P c := by
  intro c hc
  rw [joinStep] at hc
  dsimp only at hc
  rw [Bool.not_false, Bool.true_and] at hc
  split at hc
  · rw [List.reverseAux_eq, List.mem_append, List.mem_reverse] at hc
    exact hc.elim (h.forall_mem.1 c) (hdone c)
  · next hmark =>
    rw [List.reverseAux_eq, List.mem_append, List.mem_reverse] at hc
    rcases hc with hc | hc
    · exact h.forall_mem.2 (Bool.not_eq_true _ ▸ hmark) c hc
    · split at hc
      · rcases List.mem_cons.1 hc with rfl | hc
        · exact hspace
        · exact hdone c hc
      · exact hdone c hc

/-- Tokens that are made of characters of some kind, to which the space belongs, are joined to a
    text of such characters. -/
theorem forall_mem_join (hspace : P ' ') {tokens : List String}
    (h : ∀ token ∈ tokens, w.MadeOf P token) :
    ∀ c ∈ (w.join (tokens.map fun token => (token, false))).toList, P c := by
  have hfold : ∀ done : Bool × List Char, (∀ c ∈ done.2, P c) →
      ∀ c ∈ ((tokens.map fun token => (token, false)).foldl w.joinStep done).2, P c := by
    induction tokens with
    | nil => exact fun _ hdone => hdone
    | cons token tokens ih =>
      intro done hdone
      exact ih (fun other hother => h other (List.mem_cons_of_mem token hother)) _
        (forall_mem_joinStep hspace hdone (h token List.mem_cons_self))
  intro c hc
  rw [join, String.toList_ofList, List.mem_reverse] at hc
  exact hfold _ (fun c hc => absurd hc List.not_mem_nil) c hc

/-! ## Decoded texts -/

/-- The tokens of a text are made of its characters, or they are the unknown token. -/
theorem madeOf_of_mem_segment (hs : ∀ c ∈ s, P c) (h : token ∈ w.segment v s) :
    token = v.unkToken ∨ w.MadeOf P token := by
  rcases List.mem_flatMap.1 h with ⟨word, hword, htoken⟩
  rcases mem_splitWord htoken with hunknown | ⟨start, stop, _, rfl⟩
  · exact Or.inl hunknown
  · right
    refine ⟨word.extract start stop, ?_, ?_⟩
    · intro c hc
      rw [List.extract_eq_take_drop] at hc
      exact hs c (mem_of_mem_words hword (List.mem_of_mem_drop (List.mem_of_mem_take hc)))
    · rw [pieceAt, markAt]
      split
      · exact Or.inl String.empty_append
      · exact Or.inr rfl

/-- The ordinary tokens of a text are made of characters that normalisation leaves. -/
theorem madeOf_of_mem_tokenize [Score S] (hmodel : t.model = .wordPiece w) {text : String}
    {config : Option Config} {policy : Option SpecialPolicy} {tokens : List String}
    (htokens : (t.tokenize text config policy).result = .ok tokens) (h : token ∈ tokens)
    (hordinary : t.vocabulary.isSpecial (t.vocabulary.lookup token) = false) :
    w.MadeOf (w.Normal (config.getD t.config).lowercase) token := by
  rw [Tokenizer.tokenize, Tokenizer.tokenizeWith] at htokens
  rcases Outcome.result_bind_eq_ok_iff.1 htokens with ⟨parts, hsplit, hparts⟩
  rw [Outcome.result_pure, Except.ok.injEq] at hparts
  rw [← hparts] at h
  rcases List.mem_flatMap.1 h with ⟨part, hpart, htoken⟩
  cases part with
  | literal l =>
    -- What was set apart is special.
    rcases (Tokenizer.split_spec hsplit).2 l hpart with ⟨id, hid, hspecial⟩
    rw [List.mem_singleton.1 htoken, Vocabulary.lookup_eq hid, hspecial] at hordinary
    cases hordinary
  | plain s =>
    rw [Tokenizer.segmentTokens, Tokenizer.segment, Tokenizer.normalize, hmodel] at htoken
    rcases madeOf_of_mem_segment (fun c hc => normal_of_mem_normalize hc) htoken with
      hunknown | hmade
    · exact absurd hunknown (Vocabulary.ne_unkToken_of_lookup hordinary)
    · exact hmade

/-- The ids of a text are decoded to characters that normalisation leaves. -/
theorem exists_decode [Score S] (hmodel : t.model = .wordPiece w) {text : String}
    {config : Option Config} {policy : Option SpecialPolicy} {encoded : Encoded}
    (h : (t.encode text config policy).result = .ok encoded) :
    ∃ decoded, t.decode (encoded.ids.map Int.ofNat) = .ok decoded ∧
      ∀ c ∈ decoded.toList, w.Normal (config.getD t.config).lowercase c := by
  rcases Tokenizer.exists_fits t text config policy h with ⟨tokens, kept, htokens, hfits⟩
  have hids : encoded.ids = (t.wrap (config.getD t.config) kept 0).ids := hfits.ids_eq
  refine ⟨_, by rw [hids, Tokenizer.decode_wrap_ordinary], ?_⟩
  rw [Tokenizer.join, hmodel]
  apply forall_mem_join (normal_space w _)
  intro token htoken
  rcases Tokenizer.mem_ordinary.1 htoken with ⟨hkept, hordinary⟩
  exact madeOf_of_mem_tokenize hmodel htokens (hfits.keeps.mem hkept) hordinary

/-! ## The second pass -/

/-- Normalising a text that has been normalised puts its marks in order, if accents are dropped,
    and does nothing otherwise, so it leaves the texts alone whose marks are in order. A third
    pass does nothing at all. Marks are in order if all that are dropped have a class other than
    zero. The ids of a text are decoded, without the special tokens, to a text to which
    normalising does no more than that either. -/
theorem normalize_repeated [Score S] (hmodel : t.model = .wordPiece w) (text : String)
    (config : Option Config) :
    let options := config.getD t.config
    let strips := w.stripAccents.getD options.lowercase
    let once := t.normalize options text.toList
    t.normalize options once = (if strips then Text.orderMarks once else once) ∧
    (t.normalize options once = once ↔ (strips = true → Text.InOrder once)) ∧
    t.normalize options (t.normalize options once) = t.normalize options once ∧
    ((∀ c ∈ Text.decompose (w.unstripped options.lowercase text.toList),
        Text.isNonspacingMark c = true → Text.Decomposition.rank c ≠ 0) →
      t.normalize options once = once) ∧
    ∀ policy encoded, (t.encode text config policy).result = .ok encoded →
      ∃ decoded, t.decode (encoded.ids.map Int.ofNat) = .ok decoded ∧
        t.normalize options decoded.toList
          = (if strips then Text.orderMarks decoded.toList else decoded.toList) ∧
        (t.normalize options decoded.toList = decoded.toList ↔
          (strips = true → Text.InOrder decoded.toList)) := by
  intro options strips once
  have hnormalize : ∀ s, t.normalize options s = w.normalize options.lowercase s := by
    intro s
    rw [Tokenizer.normalize, hmodel]
  simp only [once, hnormalize]
  have hself := normalize_eq_self_iff fun _ =>
    @normal_of_mem_normalize _ text.toList w options.lowercase
  refine ⟨normalize_normalize w _ _, hself, normalize_third w _ _, ?_, ?_⟩
  · exact fun h => hself.2 fun hstrip => inOrder_normalize hstrip h
  · intro policy encoded h
    rcases exists_decode hmodel h with ⟨decoded, hdecode, hnormal⟩
    exact ⟨decoded, hdecode, normalize_of_normal hnormal, normalize_eq_self_iff hnormal⟩

/-- A letter with an accent, in the text and after it has come back. -/
theorem normalize_repeated_of_accent : ∃ t : Tokenizer Float, t.model = .wordPiece {} ∧
    t.normalize t.config "É".toList = ['e'] ∧ t.normalize t.config ['e'] = ['e'] ∧
    ∃ encoded, (t.encode "É").result = .ok encoded ∧
      t.decode (encoded.ids.map Int.ofNat) = .ok "e" ∧
      t.normalize t.config "e".toList = "e".toList := by
  have hnodup : ["[UNK]", "e"].Nodup := by decide
  rcases Vocabulary.exists_ofUnknown hnodup 0 (by decide) with ⟨v, _, hv, hspecial⟩
  let t : Tokenizer Float :=
    ⟨v, { Config.uncapped true with lowercase := true }, true, true, none, .wordPiece {}⟩
  have htoken : v.token? 1 = some "e" := by
    rw [v.token?_eq_getElem?, hv]
    rfl
  have hordinary : v.isSpecial 1 = false := by
    rw [Vocabulary.isSpecial, Vocabulary.specialIds_of_unknown hspecial]
    rfl
  have hnormal : t.normalize t.config "É".toList = ['e'] := by
    show normalize {} true "É".toList = ['e']
    decide +kernel
  have hsegment : segment {} v ['e'] = ["e"] := by
    apply segment_word (by decide +kernel) rfl
    rw [Vocabulary.contains_iff, hv]
    decide
  have hencode : (t.encode "É").result = .ok (t.wrap t.config ["e"] 0) := by
    rw [Tokenizer.result_encode_tokens _ _ rfl, Tokenizer.result_tokenize_none rfl]
    show Except.ok (t.wrap t.config (segment {} v (t.normalize t.config "É".toList)) 0) = _
    rw [hnormal, hsegment]
  have hback : t.decode ((t.wrap t.config ["e"] 0).ids.map Int.ofNat) = .ok "e" := by
    refine (Tokenizer.decode_wrap_skip t.config 0 ?_).trans rfl
    intro token hmem
    rw [List.mem_singleton.1 hmem]
    exact ⟨1, htoken, hordinary⟩
  have hparts : Text.decompose (unstripped {} true "É".toList) = ['e', '\u0301'] := by
    decide +kernel
  have hranks : ∀ c ∈ Text.decompose (unstripped {} true "É".toList),
      Text.isNonspacingMark c = true → Text.Decomposition.rank c ≠ 0 := by
    rw [hparts, List.forall_mem_cons, List.forall_mem_singleton]
    decide +kernel
  rcases normalize_repeated (t := t) rfl "É" none with ⟨_, _, _, honce, hdecoded⟩
  have hagain := honce hranks
  rcases hdecoded none _ hencode with ⟨decoded, hdecode, _, hself⟩
  rw [hback, Except.ok.injEq] at hdecode
  subst hdecode
  have hplain : t.normalize t.config "e".toList = "e".toList :=
    hself.2 fun _ => by decide +kernel
  refine ⟨t, rfl, hnormal, ?_, _, hencode, hback, hplain⟩
  rwa [Option.getD_none, hnormal] at hagain

/-- Between two marks that stay and descend is one of class zero that is dropped. The second pass
    puts them in order. -/
theorem normalize_normalize_ne :
    normalize {} true ['a', '\u302E', '\u034F', Char.ofNat 0x1D165]
      = ['a', '\u302E', Char.ofNat 0x1D165] ∧
    normalize {} true (normalize {} true ['a', '\u302E', '\u034F', Char.ofNat 0x1D165])
      ≠ normalize {} true ['a', '\u302E', '\u034F', Char.ofNat 0x1D165] := by
  decide +kernel

end WordPiece

end Subword
