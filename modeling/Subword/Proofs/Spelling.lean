import Subword.Proofs.Encoding
import Subword.Proofs.Merges.Rounds
import Subword.Proofs.WordPiece.Words

/-!
# Special tokens that a text spells

When no special tokens are looked for in a text, their names are ordinary text.
That does not keep them out of the ids. WordPiece and byte pair encoding look
up whatever tokens they come to, special or not, so a special token that is
made like an ordinary one is found like an ordinary one.

But whatever the vocabulary is, there are few kinds of tokens that they come
to: WordPiece comes to parts of words, behind its mark or without it, and byte
pair encoding to its symbols and to what its rules make. A special token of
another kind, such as a word in brackets, is spelled by no text.

## Main definitions

* `BytePair.Spells`: The tokens that a text can have.
* `Model.Spells`: The tokens that a text can have, whatever the vocabulary.

## Theorems

* `BytePair.spells_of_mem_segment`: What the tokens of a text are made of.
* `Tokenizer.encode_spelled`: The ids inside a sequence are those of tokens that a text can have.
* `Tokenizer.exists_special_spelled`: Special tokens can be among them.
-/

namespace Subword

/-! ## Symbols and rules -/

namespace BytePair

variable {b : BytePair} {s chunk : List Char} {symbol token suffix : String} {c : Char}

/-- The characters that symbols are made of. -/
def IsSymbol (b : BytePair) (c : Char) : Prop :=
  b.byteLevel = true → ∃ byte, c = ByteAlphabet.symbol byte

/-- Whether a token is one that a text can have: a symbol, without or with the suffix, or what
    a rule makes. -/
inductive Spells (b : BytePair) : String → Prop
  | symbol {c : Char} (h : b.IsSymbol c) : Spells b (String.singleton c)
  | ending {c : Char} {suffix : String} (h : b.IsSymbol c) (hsuffix : b.suffix? = some suffix) :
      Spells b (String.singleton c ++ suffix)
  | made {token : String} (h : b.rules.Makes token) : Spells b token

theorem isSymbol_of_mem_spell (h : c ∈ b.spell s) : b.IsSymbol c := by
  intro hbyte
  rw [spell, if_pos hbyte] at h
  rcases List.mem_map.1 h with ⟨byte, _, rfl⟩
  exact ⟨byte, rfl⟩

/-- Of some symbols with a suffix behind the last one, each is without it or with it. -/
theorem mem_addSuffix {symbols : List String} (h : symbol ∈ addSuffix suffix symbols) :
    symbol ∈ symbols ∨ ∃ last ∈ symbols, symbol = last ++ suffix := by
  induction symbols with
  | nil => cases h
  | cons a rest ih =>
    cases rest with
    | nil => exact Or.inr ⟨a, List.mem_cons_self, List.mem_singleton.1 h⟩
    | cons a' rest =>
      rw [addSuffix] at h
      · rcases List.mem_cons.1 h with rfl | h
        · exact Or.inl List.mem_cons_self
        · rcases ih h with hmem | ⟨last, hlast, heq⟩
          · exact Or.inl (List.mem_cons_of_mem a hmem)
          · exact Or.inr ⟨last, List.mem_cons_of_mem a hlast, heq⟩
      · exact List.cons_ne_nil a' rest

theorem spells_of_mem_symbols (h : symbol ∈ b.symbols chunk) : b.Spells symbol := by
  have hsingle : ∀ a ∈ (b.spell chunk).map String.singleton, ∃ c, b.IsSymbol c ∧
      a = String.singleton c := by
    intro a ha
    rcases List.mem_map.1 ha with ⟨c, hc, rfl⟩
    exact ⟨c, isSymbol_of_mem_spell hc, rfl⟩
  unfold symbols at h
  dsimp only at h
  split at h
  · next suffix hsuffix =>
    rcases mem_addSuffix h with hmem | ⟨last, hlast, rfl⟩
    · rcases hsingle symbol hmem with ⟨c, hc, rfl⟩
      exact .symbol hc
    · rcases hsingle last hlast with ⟨c, hc, rfl⟩
      exact .ending hc hsuffix
  · rcases hsingle symbol h with ⟨c, hc, rfl⟩
    exact .symbol hc

/-- The tokens of a text are symbols, or rules make them. -/
theorem spells_of_mem_segment (h : token ∈ b.segment s) : b.Spells token := by
  rcases List.mem_flatMap.1 h with ⟨chunk, _, htoken⟩
  rcases MergeRules.mem_apply htoken with hsymbol | hmakes
  · exact spells_of_mem_symbols hsymbol
  · exact .made hmakes

end BytePair

/-! ## Ids of a text -/

/-- Whether a token is one that a text can have under a model. Nothing is said of unigram models,
    which have no special token among their pieces. -/
inductive Model.Spells {S : Type} : Model S → String → Prop
  | wordPiece {w : WordPiece} {token : String} (h : w.Spells token) : Spells (.wordPiece w) token
  | bytePair {b : BytePair} {token : String} (h : b.Spells token) : Spells (.bytePair b) token

namespace Tokenizer

variable {S : Type} [Score S] {t : Tokenizer S} {policy : Option SpecialPolicy} {s : List Char}
  {token : String}

theorem spells_of_mem_segment (hfamily : t.model.family ≠ .unigram) (h : token ∈ t.segment s) :
    token = t.vocabulary.unkToken ∨ t.model.Spells token := by
  rw [segment] at h
  cases hmodel : t.model with
  | wordPiece w =>
    rw [hmodel] at h
    rcases WordPiece.spells_of_mem_segment h with hunknown | hspells
    · exact Or.inl hunknown
    · exact Or.inr (.wordPiece hspells)
  | bytePair b =>
    rw [hmodel] at h
    exact Or.inr (.bytePair (BytePair.spells_of_mem_segment h))
  | unigram u =>
    rw [hmodel] at hfamily
    exact absurd rfl hfamily

/-- Under no cap and without wrapping, the ids of a text in which no special tokens are looked for
    are those of its tokens. -/
theorem encode_bare {text : String} {tokens : List String}
    (hpolicy : policy.or t.policy = none ∨ policy.or t.policy = some .none)
    (hconfig : t.config = Config.uncapped false)
    (htokens : t.segmentTokens t.config (.plain text.toList) = tokens) :
    (t.encode text none policy).result = .ok
      ⟨tokens.map t.vocabulary.lookup, tokens, tokens.map fun _ => 0, 0⟩ := by
  have hcap : (Option.none.getD t.config).cap = none := by
    rw [Option.getD_none, hconfig]
    rfl
  rw [result_encode_tokens text policy hcap, result_tokenize_plain hpolicy, Option.getD_none,
    htokens, Except.map, wrap, startIds, endIds, hconfig]
  simp only [Config.uncapped, Bool.false_and, Bool.false_eq_true, if_false, List.nil_append,
    List.append_nil, List.map_nil]

/-- Where no special tokens are looked for in a text, tokenizing succeeds, and each id inside a
    sequence is the unknown one or that of a token that a text can have. So if no text can have a
    special token, no id inside is special but the unknown one. -/
theorem encode_spelled (hfamily : t.model.family ≠ .unigram)
    (hpolicy : policy.or t.policy = none ∨ policy.or t.policy = some .none) (text : String)
    (options : Option Config) :
    (∃ tokens, (t.tokenize text options policy).result = .ok tokens) ∧
    ∀ encoded, (t.encode text options policy).result = .ok encoded →
      ∀ i id : Nat, encoded.mask[i]? = some 0 → encoded.ids[i]? = some id →
        id = t.vocabulary.special.unk ∨
          ∃ token, t.vocabulary.token? id = some token ∧ t.model.Spells token := by
  have htokenize := result_tokenize_plain (t := t) hpolicy text options
  refine ⟨⟨_, htokenize⟩, ?_⟩
  intro encoded hencoded i id hmask hid
  -- An id with a zero in the mask is that of one of the tokens, cut to length or not.
  rcases exists_fits t text options policy hencoded with ⟨tokens, kept, htokens, hfits⟩
  rw [htokenize, Except.ok.injEq] at htokens
  rcases hfits.exists_of_mask hmask hid with ⟨token, hmem, rfl⟩
  rw [← htokens] at hmem
  cases hget : t.vocabulary.get? token with
  | none => exact Or.inl (by rw [Vocabulary.lookup, hget, Option.getD_none])
  | some id =>
    have htoken := Vocabulary.get?_eq_some_iff.1 hget
    rw [Vocabulary.lookup_eq htoken]
    rcases spells_of_mem_segment hfamily hmem with rfl | hspells
    · rw [Vocabulary.get?_eq_some_iff.2 t.vocabulary.token?_unk, Option.some.injEq] at hget
      exact Or.inl hget.symm
    · exact Or.inr ⟨token, htoken, hspells⟩

/-- Names of special tokens in brackets are spelled by no text. -/
theorem encode_spelled_of_brackets : ∃ t : Tokenizer Float, t.model = .wordPiece {} ∧
    t.vocabulary.tokens.toList = ["[UNK]", "[CLS]", "[SEP]", "[", "sep", "]"] ∧
    t.vocabulary.specialIds = [0, 1, 2] ∧
    ∃ encoded, (t.encode "[SEP] sep" none (some .none)).result = .ok encoded ∧
      ∀ i id : Nat, encoded.mask[i]? = some 0 → encoded.ids[i]? = some id →
        t.vocabulary.isSpecial id = true → id = 0 := by
  have hnodup : ["[UNK]", "[CLS]", "[SEP]", "[", "sep", "]"].Nodup := by decide
  rcases Vocabulary.exists_ofBounds hnodup (by decide) with ⟨v, hv, hspecial, hids⟩
  let t : Tokenizer Float := ⟨v, Config.uncapped true, true, true, none, .wordPiece {}⟩
  have hfamily : t.model.family ≠ .unigram := Family.noConfusion
  have hplain : (some SpecialPolicy.none).or t.policy = none ∨
      (some SpecialPolicy.none).or t.policy = some .none := Or.inr rfl
  rcases encode_spelled hfamily hplain "[SEP] sep" none with ⟨⟨tokens, htokens⟩, hall⟩
  have hcap : (Option.none.getD t.config).cap = none := rfl
  have hencode := result_encode_tokens "[SEP] sep" (some .none) hcap
  rw [htokens] at hencode
  refine ⟨t, rfl, hv, hids, _, hencode, ?_⟩
  intro i id hmask hid hisSpecial
  have hnone : ∀ token ∈ ["[CLS]", "[SEP]"], ¬ t.model.Spells token := by
    rintro token hmem (⟨hspells⟩)
    have hbrackets : ∀ token ∈ ["[CLS]", "[SEP]"],
        WordPiece.isWordPart token.toList = false ∧ ¬ "##".toList <+: token.toList := by
      decide +kernel
    exact WordPiece.not_spells (hbrackets token hmem).1 (hbrackets token hmem).2 hspells
  rcases hall _ hencode i id hmask hid with hunk | ⟨token, htoken, hspells⟩
  · rw [hunk]
    exact congrArg SpecialTokens.unk hspecial
  · have hmem : id ∈ [0, 1, 2] := by
      rw [← hids]
      exact Vocabulary.isSpecial_iff.1 hisSpecial
    rw [Vocabulary.token?_eq_getElem?, hv] at htoken
    simp only [List.mem_cons, List.not_mem_nil, or_false] at hmem
    rcases hmem with rfl | rfl | rfl
    · rfl
    · cases htoken
      exact absurd hspells (hnone _ (by decide))
    · cases htoken
      exact absurd hspells (hnone _ (by decide))

/-- A special token that is a word, or that the rules make, has its id in a text. -/
theorem exists_special_spelled : ∃ v : Vocabulary,
    v.tokens.toList = ["[UNK]", "cls", "sep"] ∧ v.special.unk = 0 ∧ v.isSpecial 2 = true ∧
    (∃ t : Tokenizer Float, t.vocabulary = v ∧ t.model = .wordPiece {} ∧
      (t.encode "sep" none (some .none)).result = .ok ⟨[2], ["sep"], [0], 0⟩) ∧
    ∃ (t : Tokenizer Float) (b : BytePair), t.vocabulary = v ∧ t.model = .bytePair b ∧
      b.rules.toList = [("s", "e"), ("se", "p")] ∧
      (t.encode "sep" none (some .none)).result = .ok ⟨[2], ["sep"], [0], 0⟩ := by
  have hnodup : ["[UNK]", "cls", "sep"].Nodup := by decide
  rcases Vocabulary.exists_ofBounds hnodup (by decide) with ⟨v, hv, hspecial, hids⟩
  have hlookup : v.lookup "sep" = 2 := Vocabulary.lookup_of_toList hv rfl
  have hisSpecial : v.isSpecial 2 = true := by
    rw [Vocabulary.isSpecial_iff, hids]
    decide
  refine ⟨v, hv, by rw [hspecial], hisSpecial, ?_, ?_⟩
  · let t : Tokenizer Float := ⟨v, Config.uncapped false, true, true, none, .wordPiece {}⟩
    have hwords : WordPiece.words (WordPiece.normalize {} false "sep".toList)
        = ["sep".toList] := by
      decide +kernel
    have hcontains : v.contains (String.ofList "sep".toList) = true := by
      rw [Vocabulary.contains_iff, hv]
      decide
    -- The word is a token, so that is its only piece.
    have hsplit : ({} : WordPiece).splitWord v "sep".toList = ["sep"] :=
      WordPiece.splitWord_of_contains rfl (by decide) hcontains
    have htokens : t.segmentTokens t.config (.plain "sep".toList) = ["sep"] := by
      change WordPiece.segment {} v (WordPiece.normalize {} false "sep".toList) = ["sep"]
      rw [WordPiece.segment, hwords, List.flatMap_singleton, hsplit]
    refine ⟨t, rfl, rfl, ?_⟩
    rw [encode_bare (Or.inr rfl) rfl htokens, List.map_singleton, List.map_singleton, hlookup]
  · have hpairs : [("s", "e"), ("se", "p")].Nodup := by decide
    rcases MergeRules.exists_ofPairs hpairs with ⟨rules, _, hrules⟩
    let b : BytePair := ⟨rules, SplitPattern.Named.gpt2.pattern, true, false, none⟩
    let t : Tokenizer Float := ⟨v, Config.uncapped false, true, true, none, .bytePair b⟩
    have hchunk : SplitPattern.Named.gpt2.pattern.chunks "sep".toList = ["sep".toList] := by
      decide +kernel
    have hsymbols : b.symbols "sep".toList = ["s", "e", "p"] := by
      change (ByteAlphabet.symbols "sep".toList).map String.singleton = ["s", "e", "p"]
      decide
    have hfirst : rules.best? ["s", "e", "p"] = some (0, 0) := by
      simp [MergeRules.best?, MergeRules.rank?_eq_idxOf?, hrules, List.idxOf?_cons]
    have hrank : rules.rank? "se" "p" = some 1 := by
      rw [MergeRules.rank?_eq_some_iff, hrules]
      rfl
    -- Two rounds make the token, and nothing is left to fuse.
    have happly : rules.apply ["s", "e", "p"] = ["sep"] :=
      (MergeRules.apply_of_some hfirst).trans (MergeRules.apply_pair hrank)
    have htokens : t.segmentTokens t.config (.plain "sep".toList) = ["sep"] := by
      change b.segment "sep".toList = ["sep"]
      rw [BytePair.segment_of_chunk (b := b) rfl rfl hchunk, hsymbols]
      exact happly
    refine ⟨t, b, rfl, rfl, hrules, ?_⟩
    rw [encode_bare (Or.inr rfl) rfl htokens, List.map_singleton, List.map_singleton, hlookup]

end Tokenizer

end Subword
