import Subword.Proofs.ByteAlphabet
import Subword.Proofs.Merges
import Subword.Proofs.Text.Utf8
import Subword.Proofs.Tokenizer

/-!
# Byte pair encoding loses nothing

A chunk is spelled in symbols, and whatever rules are applied to them, the
tokens spell the same. Decoding a run of tokens reads the spelling as a whole.
So a text comes back if its pattern leaves none of it out and every token is in
the vocabulary.

The invariant of decoding says which text a state stands for: what is done
already, and what the run that has begun spells. A special token ends the run,
and the characters of a text are never spread over one.

## Main definitions

* `BytePair.spell`: A text in symbols.
* `BytePair.ending`: What stands behind every chunk.
* `BytePair.Joining.StandsFor`: The text that a state of decoding stands for.

## Theorems

* `BytePair.join_segment_chunks`: The tokens of a text spell its chunks.
* `BytePair.join_segment`: The tokens of a text spell it.
* `BytePair.Joining.StandsFor.parts`: The tokens of all parts of a text add the text.
* `BytePair.decode_encode`: A text comes back from its ids.
-/

namespace Subword

namespace BytePair

variable {b : BytePair}

/-- A text in symbols. -/
def spell (b : BytePair) (s : List Char) : List Char :=
  if b.byteLevel then ByteAlphabet.symbols s else s

theorem spell_append (s t : List Char) : b.spell (s ++ t) = b.spell s ++ b.spell t := by
  unfold spell
  split
  · exact ByteAlphabet.symbols_append s t
  · rfl

theorem spell_nil : b.spell [] = [] := by
  unfold spell
  split <;> rfl

theorem spell_flatten (chunks : List (List Char)) :
    b.spell chunks.flatten = chunks.flatMap b.spell := by
  induction chunks with
  | nil => exact spell_nil
  | cons chunk rest ih => rw [List.flatten_cons, spell_append, ih, List.flatMap_cons]

/-! ## Tokens of a text -/

theorem spell_ne_nil {chunk : List Char} (hne : chunk ≠ []) : b.spell chunk ≠ [] := by
  unfold spell
  split
  · -- The bytes of a text lead back to it, so there are some.
    intro hnil
    have hback := Text.Utf8.decodeLossy_encode chunk
    rw [← ByteAlphabet.bytes_symbols, hnil] at hback
    exact hne hback.symm
  · exact hne

/-- What stands behind every chunk. -/
def ending (b : BytePair) : List Char := (b.suffix?.getD "").toList

theorem ending_eq_nil (hsuffix : b.suffix? = none) : b.ending = [] := by
  rw [ending, hsuffix, Option.getD_none]
  rfl

/-- A suffix behind the last symbol is behind all of them. -/
theorem join_addSuffix (suffix : String) {symbols : List String} (hne : symbols ≠ []) :
    (String.join (addSuffix suffix symbols)).toList
      = (String.join symbols).toList ++ suffix.toList := by
  induction symbols with
  | nil => exact absurd rfl hne
  | cons a rest ih =>
    cases rest with
    | nil =>
      simp only [addSuffix, String.toList_join, List.flatMap_cons, List.flatMap_nil,
        String.toList_append, List.append_nil]
    | cons a' rest =>
      have hrest := ih (List.cons_ne_nil a' rest)
      have hcons : addSuffix suffix (a :: a' :: rest) = a :: addSuffix suffix (a' :: rest) := rfl
      rw [String.toList_join, String.toList_join] at hrest
      rw [hcons, String.toList_join, String.toList_join, List.flatMap_cons, hrest,
        ← List.append_assoc, ← List.flatMap_cons]

/-- The symbols of a chunk spell it, with the suffix behind it if there is one. An empty chunk
    has no symbol that a suffix could stand behind. -/
theorem join_symbols {chunk : List Char} (h : b.suffix? = none ∨ chunk ≠ []) :
    (String.join (b.symbols chunk)).toList = b.spell chunk ++ b.ending := by
  have hchars : ∀ chars : List Char,
      (chars.map String.singleton).flatMap String.toList = chars := by
    intro chars
    rw [List.flatMap_map]
    simp only [String.toList_singleton, List.flatMap_singleton']
  cases hsuffix : b.suffix? with
  | none =>
    have hsymbols : b.symbols chunk = (b.spell chunk).map String.singleton := by
      unfold symbols
      simp only [hsuffix]
      rfl
    rw [hsymbols, String.toList_join, hchars, ending_eq_nil hsuffix, List.append_nil]
  | some suffix =>
    have hsymbols : b.symbols chunk = addSuffix suffix ((b.spell chunk).map String.singleton) := by
      unfold symbols
      simp only [hsuffix]
      rfl
    have hne : chunk ≠ [] := by
      rcases h with hnone | hne
      · rw [hsuffix] at hnone
        cases hnone
      · exact hne
    have hsome : (b.spell chunk).map String.singleton ≠ [] := by
      rw [ne_eq, List.map_eq_nil_iff]
      exact spell_ne_nil hne
    rw [hsymbols, join_addSuffix suffix hsome, String.toList_join, hchars, ending, hsuffix,
      Option.getD_some]

/-- The tokens of a text spell its chunks, each with the suffix behind it. -/
theorem join_segment_chunks {s : List Char}
    (h : ∀ chunk ∈ b.chunks s, b.suffix? = none ∨ chunk ≠ []) :
    (String.join (b.segment s)).toList
      = (b.chunks s).flatMap fun chunk => b.spell chunk ++ b.ending := by
  rw [segment, String.toList_join, List.flatMap_assoc]
  apply List.flatMap_congr
  intro chunk hmem
  -- Each chunk is spelled by its tokens, whatever rules they come from.
  rw [← String.toList_join, MergeRules.join_apply, join_symbols (h chunk hmem)]

/-- Without a suffix, the tokens of a text spell its chunks put together. -/
theorem join_segment_flatten (hsuffix : b.suffix? = none) (s : List Char) :
    (String.join (b.segment s)).toList = b.spell (b.chunks s).flatten := by
  rw [join_segment_chunks (fun _ _ => Or.inl hsuffix), ending_eq_nil hsuffix, spell_flatten]
  simp only [List.append_nil]

/-- Without a suffix and a space in front, the chunks of a text are those of the pattern. -/
theorem chunks_eq (hsuffix : b.suffix? = none) (hspace : b.addPrefixSpace = false)
    (s : List Char) : b.chunks s = b.pattern.chunks s := by
  have hadd : b.addPrefix s = s := by
    unfold addPrefix
    cases s with
    | nil => rfl
    | cons c rest => simp only [hspace, Bool.false_and, Bool.false_eq_true, if_false]
  unfold chunks
  simp only [hadd, hsuffix, Option.isSome_none, Bool.false_eq_true, if_false]

/-- A text that is one chunk is segmented in one go. -/
theorem segment_of_chunk (hsuffix : b.suffix? = none) (hspace : b.addPrefixSpace = false)
    {s : List Char} (hchunk : b.pattern.chunks s = [s]) :
    b.segment s = b.rules.apply (b.symbols s) := by
  rw [segment, chunks_eq hsuffix hspace, hchunk, List.flatMap_singleton]

/-- The tokens of a text spell it, if the chunks leave none of it out. -/
theorem join_segment (hsuffix : b.suffix? = none) (hspace : b.addPrefixSpace = false)
    {s : List Char} (hchunks : (b.pattern.chunks s).flatten = s) :
    (String.join (b.segment s)).toList = b.spell s := by
  rw [join_segment_flatten hsuffix, chunks_eq hsuffix hspace, hchunks]

/-- A run that spells a text is read as the text, with a space for each suffix in it. -/
theorem decodeRun_spell (b : BytePair) (s : List Char) : b.decodeRun (b.spell s)
    = b.suffix?.elim s fun suffix => Text.replace suffix.toList [' '] s := by
  have hread : (if b.byteLevel then Text.Utf8.decodeLossy (ByteAlphabet.bytes (b.spell s))
      else b.spell s) = s := by
    unfold spell
    split
    · rw [ByteAlphabet.bytes_symbols, Text.Utf8.decodeLossy_encode]
    · rfl
  rw [decodeRun, hread]
  cases b.suffix? <;> rfl

/-! ## The text of tokens -/

/-- The text that a state of decoding stands for: what is done, and what the run spells. -/
def Joining.StandsFor (b : BytePair) (j : Joining) (s : List Char) : Prop :=
  ∃ front back, s = front ++ back ∧ j.done = front.reverse ∧ j.run = (b.spell back).reverse

theorem standsFor_nil : Joining.StandsFor b ⟨[], []⟩ [] :=
  ⟨[], [], rfl, rfl, by rw [spell_nil, List.reverse_nil]⟩

namespace Joining.StandsFor

variable {j : Joining} {s : List Char}

/-- Ending the run of a state gives its text. -/
theorem flush_eq (h : StandsFor b j s) (hsuffix : b.suffix? = none) :
    j.flush b = s.reverse := by
  rcases h with ⟨front, back, rfl, hdone, hrun⟩
  rw [flush, hrun, List.reverse_reverse, decodeRun_spell, hsuffix, Option.elim_none, hdone,
    List.reverseAux_eq, List.reverse_append]

/-- A special token adds itself. -/
theorem special (h : StandsFor b j s) (hsuffix : b.suffix? = none) (token : String) :
    StandsFor b (b.joinStep j (token, true)) (s ++ token.toList) := by
  refine ⟨s ++ token.toList, [], (List.append_nil _).symm, ?_, ?_⟩
  · show token.toList.reverseAux (j.flush b) = _
    rw [h.flush_eq hsuffix, List.reverseAux_eq, List.reverse_append]
  · rw [spell_nil, List.reverse_nil]
    rfl

/-- Tokens that are not special go behind the run. -/
theorem foldl_plain (tokens : List String) : ∀ j : Joining,
    (tokens.map fun token => (token, false)).foldl b.joinStep j
      = ⟨j.done, (String.join tokens).toList.reverseAux j.run⟩ := by
  induction tokens with
  | nil => exact fun j => rfl
  | cons token rest ih =>
    intro j
    have hstep : b.joinStep j (token, false) = ⟨j.done, token.toList.reverseAux j.run⟩ := rfl
    rw [List.map_cons, List.foldl_cons, ih, hstep, String.join_cons, String.toList_append]
    simp only [List.reverseAux_eq, List.reverse_append, List.append_assoc]

/-- Tokens that spell a text add it. -/
theorem plain (h : StandsFor b j s) {tokens : List String} {text : List Char}
    (hspell : (String.join tokens).toList = b.spell text) :
    StandsFor b ((tokens.map fun token => (token, false)).foldl b.joinStep j)
      (s ++ text) := by
  rcases h with ⟨front, back, rfl, hdone, hrun⟩
  -- The run is read as a whole later, so the tokens may well split a character.
  refine ⟨front, back ++ text, List.append_assoc .., ?_, ?_⟩
  · rw [foldl_plain, hdone]
  · rw [foldl_plain, hspell, List.reverseAux_eq, hrun, spell_append, List.reverse_append]

end Joining.StandsFor

/-! ## Whole texts -/

variable {S : Type} [Score S] {t : Tokenizer S}

/-- The parts of a text that come back: special tokens, and text which the pattern leaves whole
    and whose tokens are in the vocabulary. -/
inductive Restored (t : Tokenizer S) (b : BytePair) : Text.Segment → Prop
  | literal (l : List Char) (id : Nat)
      (token : t.vocabulary.token? id = some (String.ofList l))
      (special : t.vocabulary.isSpecial id = true) : Restored t b (.literal l)
  | plain (l : List Char) (chunks : (b.pattern.chunks l).flatten = l)
      (known : ∀ token ∈ b.segment l, ∃ id, t.vocabulary.get? token = some id ∧
        t.vocabulary.isSpecial id = false) : Restored t b (.plain l)

/-- What decoding is given for a part of a text. -/
def shownPart (t : Tokenizer S) (config : Config) (part : Text.Segment) : List (String × Bool) :=
  (t.segmentTokens config part).map fun token => t.known (t.vocabulary.lookup token)

section

variable (hmodel : t.model = .bytePair b) (hsuffix : b.suffix? = none)
  (hspace : b.addPrefixSpace = false) {config : Config} (hlower : config.lowercase = false)

include hmodel hlower in
/-- The tokens of plain text stand as they are, none of them special. -/
theorem shownPart_plain {l : List Char} (hknown : ∀ token ∈ b.segment l, ∃ id,
      t.vocabulary.get? token = some id ∧ t.vocabulary.isSpecial id = false) :
    shownPart t config (.plain l) = (b.segment l).map fun token => (token, false) := by
  have htokens : t.segmentTokens config (.plain l) = b.segment l := by
    simp only [Tokenizer.segmentTokens, Tokenizer.segment, Tokenizer.normalize, hmodel, hlower,
      Bool.false_eq_true, if_false]
  rw [shownPart, htokens]
  apply Tokenizer.map_known_lookup
  intro token hmem
  rcases hknown token hmem with ⟨id, hget, hspecial⟩
  exact ⟨id, Vocabulary.get?_eq_some_iff.1 hget, hspecial⟩

include hmodel hsuffix hspace hlower

/-- The tokens of a part of a text add the part. -/
theorem Joining.StandsFor.part {j : Joining} {s : List Char} (h : StandsFor b j s)
    {part : Text.Segment} (hpart : Restored t b part) :
    StandsFor b ((shownPart t config part).foldl b.joinStep j) (s ++ part.chars) := by
  cases hpart with
  | literal l id htoken hspecial =>
    -- A special token that is matched has its own id, and so comes back as one token.
    have hshown : shownPart t config (.literal l) = [(String.ofList l, true)] := by
      rw [← hspecial, ← Tokenizer.known_lookup htoken]
      rfl
    have hjoined := h.special hsuffix (String.ofList l)
    rw [String.toList_ofList] at hjoined
    rw [hshown]
    exact hjoined
  | plain l hchunks hknown =>
    rw [shownPart_plain hmodel hlower hknown]
    exact h.plain (join_segment hsuffix hspace hchunks)

/-- The tokens of all parts of a text add the text. -/
theorem Joining.StandsFor.parts {parts : List Text.Segment}
    (hparts : ∀ part ∈ parts, Restored t b part) : ∀ {j : Joining} {s : List Char},
      StandsFor b j s → StandsFor b ((parts.flatMap (shownPart t config)).foldl b.joinStep j)
        (s ++ Text.textOf parts) := by
  induction parts with
  | nil =>
    intro j s h
    rw [Text.textOf, List.flatMap_nil, List.flatMap_nil, List.append_nil]
    exact h
  | cons part rest ih =>
    intro j s h
    have hpart := h.part hmodel hsuffix hspace hlower (hparts part List.mem_cons_self)
    have hrest := ih (fun p hp => hparts p (List.mem_cons_of_mem part hp)) hpart
    rw [List.flatMap_cons, List.foldl_append, Text.textOf_cons, ← List.append_assoc]
    exact hrest

/-- The tokens of all parts of a text are joined to the text. -/
theorem joinKept_parts {parts : List Text.Segment}
    (hparts : ∀ part ∈ parts, Restored t b part) :
    t.joinKept false (parts.flatMap (shownPart t config))
      = String.ofList (Text.textOf parts) := by
  have h := standsFor_nil.parts hmodel hsuffix hspace hlower hparts
  have hjoin : t.joinKept false (parts.flatMap (shownPart t config))
      = b.join (parts.flatMap (shownPart t config)) := by
    rw [Tokenizer.joinKept, Tokenizer.join, hmodel]
    rfl
  rw [hjoin, join, h.flush_eq hsuffix]
  simp only [hsuffix, Option.isSome_none, Bool.false_eq_true, if_false, List.reverse_reverse,
    List.nil_append]

end

/-- A text comes back from its ids, whatever special tokens are matched in it, if the pattern
    leaves none of it out and all its tokens are in the vocabulary. -/
theorem decode_encode (hmodel : t.model = .bytePair b) (hsuffix : b.suffix? = none)
    (hspace : b.addPrefixSpace = false) (text : String) {config : Option Config}
    {policy : Option SpecialPolicy}
    (hlower : (config.getD t.config).lowercase = false)
    (hwrap : (config.getD t.config).addSpecial = false)
    (hcap : (config.getD t.config).cap = none) {parts : List Text.Segment}
    (hsplit : (t.split policy text.toList).result = .ok parts)
    (hchunks : ∀ s, .plain s ∈ parts → (b.pattern.chunks s).flatten = s)
    (hknown : ∀ s, .plain s ∈ parts → ∀ token ∈ b.segment s, ∃ id,
      t.vocabulary.get? token = some id ∧ t.vocabulary.isSpecial id = false) :
    ∃ encoded, (t.encode text config policy).result = .ok encoded ∧
      t.decode (encoded.ids.map Int.ofNat) false = .ok text := by
  have hspec := Tokenizer.split_spec hsplit
  have hparts : ∀ part ∈ parts, Restored t b part := by
    intro part hpart
    cases part with
    | literal l =>
      rcases hspec.2 l hpart with ⟨id, htoken, hspecial⟩
      exact .literal l id htoken hspecial
    | plain s => exact .plain s (hchunks s hpart) (hknown s hpart)
  have hstart : t.startIds (config.getD t.config) = [] := by
    rw [Tokenizer.startIds, hwrap]
    rfl
  have hend : t.endIds (config.getD t.config) = [] := by
    rw [Tokenizer.endIds, hwrap]
    rfl
  -- Nothing goes around the text, so the tokens of its parts are all there is to join.
  refine ⟨_, Tokenizer.encode_eq hcap hsplit, ?_⟩
  rw [Tokenizer.decode_wrap, hstart, hend, List.map_nil, List.append_nil, List.nil_append,
    List.map_flatMap]
  have hjoined := joinKept_parts hmodel hsuffix hspace hlower hparts
  rw [hspec.1, String.ofList_toList] at hjoined
  exact congrArg Except.ok hjoined

/-- Two letters that share their first byte, around a special token. The bytes of one letter are
    fused to a token and those of the other are not. -/
theorem decode_encode_of_shared_byte : ∃ (t : Tokenizer Float) (b : BytePair),
    t.model = .bytePair b ∧ b.pattern = SplitPattern.Named.gpt2.pattern ∧
    b.segment ['é'] = ["Ã©"] ∧ b.segment ['è'] = ["Ã", "¨"] ∧
    ∃ encoded, (t.encode "é<bos>è" none (some .all)).result = .ok encoded ∧
      t.decode (encoded.ids.map Int.ofNat) false = .ok "é<bos>è" := by
  have htokens : ["<unk>", "<bos>", "<eos>", "Ã©", "Ã", "¨"].Nodup := by decide
  rcases Vocabulary.exists_ofBounds htokens (by decide) with ⟨v, hv, _, hids⟩
  have hpairs : [("Ã", "©")].Nodup := by decide
  rcases MergeRules.exists_ofPairs hpairs with ⟨rules, _, hrules⟩
  let b : BytePair := { rules, pattern := SplitPattern.Named.gpt2.pattern }
  let t : Tokenizer Float := ⟨v, Config.uncapped false, false, false, none, .bytePair b⟩
  have hchunks : SplitPattern.Named.gpt2.pattern.chunks ['é'] = [['é']] ∧
      SplitPattern.Named.gpt2.pattern.chunks ['è'] = [['è']] := by
    decide +kernel
  have hsymbols : ∀ s, b.symbols s = (ByteAlphabet.symbols s).map String.singleton :=
    fun _ => rfl
  have hfirst : b.segment ['é'] = ["Ã©"] := by
    have hrank : rules.rank? "Ã" "©" = some 0 := by
      rw [MergeRules.rank?_eq_some_iff, hrules]
      rfl
    have hbytes : b.symbols ['é'] = ["Ã", "©"] := by
      rw [hsymbols]
      decide +kernel
    rw [segment_of_chunk (b := b) rfl rfl hchunks.1, hbytes]
    exact MergeRules.apply_pair hrank
  have hsecond : b.segment ['è'] = ["Ã", "¨"] := by
    have hrank : rules.rank? "Ã" "¨" = none := by
      apply MergeRules.rank?_eq_none
      rw [hrules]
      decide
    have hbytes : b.symbols ['è'] = ["Ã", "¨"] := by
      rw [hsymbols]
      decide +kernel
    rw [segment_of_chunk (b := b) rfl rfl hchunks.2, hbytes]
    exact MergeRules.apply_pair_of_none hrank
  have hsplit : (t.split (some .all) "é<bos>è".toList).result
      = .ok [.plain ['é'], .literal ['<', 'b', 'o', 's', '>'], .plain ['è']] := by
    have hliterals := Vocabulary.literals_of_bounds hids hv
    have hlongest : Text.longestFirst (v.literals.map fun literal => literal.1.toList)
        = ["<unk>".toList, "<bos>".toList, "<eos>".toList] := by
      rw [hliterals]
      exact List.mergeSort_of_pairwise (by decide)
    rw [Tokenizer.split_all, Text.cut, hlongest, hliterals]
    exact congrArg Except.ok (by decide +kernel)
  have hplain : ∀ s, .plain s ∈ [Text.Segment.plain ['é'], .literal ['<', 'b', 'o', 's', '>'],
      .plain ['è']] → s = ['é'] ∨ s = ['è'] := by
    intro s h
    simpa using h
  refine ⟨t, b, rfl, rfl, hfirst, hsecond, decode_encode rfl rfl rfl _ rfl rfl rfl hsplit ?_ ?_⟩
  · intro s hs
    rcases hplain s hs with rfl | rfl
    · exact congrArg List.flatten hchunks.1
    · exact congrArg List.flatten hchunks.2
  · intro s hs token hmem
    refine Vocabulary.exists_id_of_bounds hv hids ?_
    rcases hplain s hs with rfl | rfl
    · rw [hfirst, List.mem_singleton] at hmem
      rw [hmem]
      decide
    · rw [hsecond] at hmem
      exact List.mem_cons_of_mem "Ã©" hmem

end BytePair

end Subword
