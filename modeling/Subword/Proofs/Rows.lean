import Subword.Proofs.Batch
import Subword.Proofs.BytePair
import Subword.Proofs.Padding

/-!
# Rows of a batch decoded

A row of a batch is the ids of its text with filling on one side, and the filling
is one id. If that id is special, decoding skips it along with the other special
tokens, and the row decodes like the ids of its text. The id of the padding token
is special, and so is that of the end token, which stands in for it.

With neither of them rows are filled up with zeros, and what has the id zero is a
token like any other unless it happens to be special. Decoding cannot tell it
from the text then, and joins it as often as it was filled in.

## Main definitions

* `Tokenizer.filledTokens`: What decoding makes of a row that was filled up.

## Theorems

* `Batch.map_fill`, `Batch.filter_fill`: Filling under a map and under a filter.
* `Batch.result_encode_of_rows`: Texts that can be encoded make a batch.
* `Batch.exists_rows`: The rows of a batch are the ids of its texts, filled up.
* `Tokenizer.isSpecial_padId`: When filling is special.
* `Tokenizer.decode_fill`: The text of a row that was filled up.
* `Tokenizer.decode_rows`: The texts of all rows of a batch.
* `Tokenizer.decode_rows_ne`: Filling that is no special token comes up as text.
-/

namespace Subword

/-! ## Filling -/

namespace Batch

variable {α β : Type}

theorem map_fill (f : α → β) (side : Side) (width : Nat) (filler : α) (row : List α) :
    (fill side width filler row).map f = fill side width (f filler) (row.map f) := by
  cases side with
  | left => rw [fill, fill, List.map_append, List.map_replicate, List.length_map]
  | right => rw [fill, fill, List.map_append, List.map_replicate, List.length_map]

/-- A filter that drops the filler leaves nothing of the filling. -/
theorem filter_fill {p : α → Bool} {filler : α} (h : p filler = false) (side : Side) (width : Nat)
    (row : List α) : (fill side width filler row).filter p = row.filter p := by
  have hnone : ∀ count, (List.replicate count filler).filter p = [] := by
    intro count
    rw [List.filter_eq_nil_iff]
    intro a ha
    rw [List.eq_of_mem_replicate ha, h]
    exact Bool.false_ne_true
  cases side with
  | left => rw [fill, List.filter_append, hnone, List.nil_append]
  | right => rw [fill, List.filter_append, hnone, List.append_nil]

theorem fill_self (side : Side) (filler : α) (row : List α) :
    fill side row.length filler row = row := by
  cases side with
  | left => rw [fill, Nat.sub_self, List.replicate_zero, List.nil_append]
  | right => rw [fill, Nat.sub_self, List.replicate_zero, List.append_nil]

theorem mem_fill {side : Side} {width : Nat} {filler a : α} {row : List α}
    (h : a ∈ fill side width filler row) : a ∈ row ∨ a = filler := by
  cases side with
  | left => exact (List.mem_append.1 h).symm.imp id List.eq_of_mem_replicate
  | right => exact (List.mem_append.1 h).imp id List.eq_of_mem_replicate

/-- The rows of a batch are its rows filled up to its width. -/
theorem rows_pad (config : Config) (filler : α) (rows : List (List α)) :
    (pad config filler rows).rows
      = rows.map (fill config.paddingSide (pad config filler rows).width filler) := by
  unfold pad
  split
  · next hempty =>
    rw [List.isEmpty_iff.1 hempty]
    rfl
  · rfl

variable {S : Type} [Score S] {t : Tokenizer S} {plan : Plan} {texts : List String}
  {config : Option Config} {policy : Option SpecialPolicy} {batch : Batch Nat}

/-- Nothing is known about who encodes a batch, nor does it matter. -/
theorem inOrder_encode (hne : texts ≠ []) :
    InOrder t config policy texts (encode t plan (.many texts) config policy).result :=
  encodeIn_inOrder hne (finishes_range _ _)

/-- Texts that can all be encoded make a batch of their ids. -/
theorem result_encode_of_rows {rows : List Encoded}
    (h : List.Forall₂ (fun text row => (t.encode text config policy).result = .ok row) texts
      rows) : (encode t plan (.many texts) config policy).result
        = .ok (pad (config.getD t.config) t.padId (rows.map Encoded.ids)) := by
  cases texts with
  | nil =>
    rw [List.forall₂_nil_left_iff.1 h]
    rfl
  | cons first others => exact (inOrder_encode (List.cons_ne_nil first others)).of_rows rows h

/-- The rows of a batch are the ids of its texts, filled up. -/
theorem exists_rows (h : (encode t plan (.many texts) config policy).result = .ok batch) :
    ∃ rows, List.Forall₂ (fun text row => (t.encode text config policy).result = .ok row)
        texts rows ∧ batch = pad (config.getD t.config) t.padId (rows.map Encoded.ids) := by
  rcases Outcome.exists_results_or_error (fun text => t.encode text config policy) texts
    with ⟨rows, hrows⟩ | ⟨before, text, after, e, htexts, hbefore, herror⟩
  · exact ⟨rows, hrows, Except.ok.inj (h.symm.trans (result_encode_of_rows hrows))⟩
  · -- A text that cannot be encoded leaves no batch at all.
    have hne : texts ≠ [] := by
      rw [htexts]
      exact List.append_ne_nil_of_right_ne_nil _ (List.cons_ne_nil _ _)
    cases h.symm.trans ((inOrder_encode hne).of_error before text after e htexts hbefore herror)

end Batch

/-! ## Decoding -/

namespace Vocabulary

theorem pad_mem {v : Vocabulary} {id : Nat} (h : v.special.pad = some id) :
    id ∈ v.specialIds := by
  rw [v.specialIds_eq, SpecialTokens.ids, mem_sortedIds, h]
  simp only [Option.toList_some, List.cons_append, List.mem_cons, List.mem_append, true_or,
    or_true]

end Vocabulary

namespace Tokenizer

variable {S : Type} {t : Tokenizer S}

/-- Rows are filled up with a token that there is. -/
theorem padId_lt (t : Tokenizer S) : t.padId < t.vocabulary.size := by
  unfold padId
  cases hpad : t.vocabulary.special.pad with
  | some id => exact t.vocabulary.special_lt id (Vocabulary.pad_mem hpad)
  | none =>
    cases heos : t.vocabulary.special.eos with
    | some id => exact t.vocabulary.special_lt id (Vocabulary.eos_mem heos)
    | none =>
      -- Without either of them rows are filled with zeros, and there is a token at least.
      exact Nat.lt_of_le_of_lt (Nat.zero_le _) (t.vocabulary.lookup_lt "")

/-- What rows are filled up with is special if there is a padding token or an end token, or if
    the token with the id zero is special anyway. -/
theorem isSpecial_padId (h : t.vocabulary.special.pad ≠ none ∨ t.vocabulary.special.eos ≠ none ∨
      t.vocabulary.isSpecial 0 = true) : t.vocabulary.isSpecial t.padId = true := by
  unfold padId
  cases hpad : t.vocabulary.special.pad with
  | some id => exact Vocabulary.isSpecial_iff.2 (Vocabulary.pad_mem hpad)
  | none =>
    cases heos : t.vocabulary.special.eos with
    | some id => exact Vocabulary.isSpecial_iff.2 (Vocabulary.eos_mem heos)
    | none =>
      rcases h with h | h | h
      · exact absurd hpad h
      · exact absurd heos h
      · exact h

/-- The ids of a text are those of tokens that there are. -/
theorem encode_lt [Score S] {text : String} {config : Option Config}
    {policy : Option SpecialPolicy} {encoded : Encoded}
    (h : (t.encode text config policy).result = .ok encoded) :
    ∀ id ∈ encoded.ids, id < t.vocabulary.size := by
  rcases exists_fits t text config policy h with ⟨_, kept, _, hfits⟩
  have hids : encoded.ids = (t.wrap (config.getD t.config) kept 0).ids := hfits.ids_eq
  rw [hids]
  exact wrap_lt

/-- What decoding is given for a row that was filled up, special tokens skipped. -/
def filledTokens (t : Tokenizer S) (side : Side) (width : Nat) (ids : List Nat) :
    List (String × Bool) :=
  (Batch.fill side width (t.known t.padId) (ids.map t.known)).filter fun token => !token.2

/-- A row that was filled up is decoded, with the filling among its tokens. -/
theorem decode_fill {ids : List Nat} (h : ∀ id ∈ ids, id < t.vocabulary.size) (side : Side)
    (width : Nat) : t.decode ((Batch.fill side width t.padId ids).map Int.ofNat)
      = .ok (t.join (t.filledTokens side width ids)) := by
  have hall : ∀ id ∈ Batch.fill side width t.padId ids, id < t.vocabulary.size := by
    intro id hid
    rcases Batch.mem_fill hid with hid | rfl
    · exact h id hid
    · exact t.padId_lt
  rw [decode_eq hall, joinKept, if_pos rfl, Batch.map_fill]
  rfl

/-- Filling that is special adds nothing, and neither does filling that is not there. -/
theorem filledTokens_eq {ids : List Nat} {width : Nat} (side : Side)
    (h : t.vocabulary.isSpecial t.padId = true ∨ ids.length = width) :
    t.filledTokens side width ids = (ids.map t.known).filter fun token => !token.2 := by
  unfold filledTokens
  rcases h with hspecial | rfl
  · apply Batch.filter_fill
    rw [known, hspecial]
    rfl
  · have hself := Batch.fill_self side (t.known t.padId) (ids.map t.known)
    rw [List.length_map] at hself
    rw [hself]

/-- Every row of a batch can be decoded. If there is a padding token or an end token, or the token
    with the id zero is special, or the row is as wide as the batch by itself, its text is that of
    the ids of its text. In any case it is what joining gives for these with the filling. -/
theorem decode_rows [Score S] {plan : Batch.Plan} {texts : List String} {config : Option Config}
    {policy : Option SpecialPolicy} {batch : Batch Nat}
    (h : (Batch.encode t plan (.many texts) config policy).result = .ok batch) :
    batch.rows.length = texts.length ∧
    ∀ (i : Nat) (text : String), texts[i]? = some text → ∃ encoded cells,
      (t.encode text config policy).result = .ok encoded ∧ batch.rows[i]? = some cells ∧
      t.decode (cells.map Int.ofNat) = .ok (t.join
        (t.filledTokens (config.getD t.config).paddingSide batch.width encoded.ids)) ∧
      (t.vocabulary.special.pad ≠ none ∨ t.vocabulary.special.eos ≠ none ∨
          t.vocabulary.isSpecial 0 = true ∨ encoded.ids.length = batch.width →
        t.decode (cells.map Int.ofNat) = t.decode (encoded.ids.map Int.ofNat)) := by
  rcases Batch.exists_rows h with ⟨rows, hrows, rfl⟩
  rw [Batch.rows_pad]
  refine ⟨?_, ?_⟩
  · rw [List.length_map, List.length_map, hrows.length_eq]
  intro i text htext
  rcases exists_beside hrows htext with ⟨encoded, hencoded, hresult⟩
  have hlt := encode_lt hresult
  refine ⟨encoded, _, hresult, ?_, decode_fill hlt _ _, ?_⟩
  · rw [List.getElem?_map, List.getElem?_map, hencoded]
    rfl
  · intro hcases
    -- Either the filling is special, or there is none.
    have hskipped : t.vocabulary.isSpecial t.padId = true ∨ encoded.ids.length
        = (Batch.pad (config.getD t.config) t.padId (rows.map Encoded.ids)).width := by
      rcases hcases with hpad | heos | hzero | hlength
      · exact Or.inl (isSpecial_padId (Or.inl hpad))
      · exact Or.inl (isSpecial_padId (Or.inr (Or.inl heos)))
      · exact Or.inl (isSpecial_padId (Or.inr (Or.inr hzero)))
      · exact Or.inr hlength
    rw [decode_fill hlt, filledTokens_eq _ hskipped, decode_eq hlt, joinKept, if_pos rfl]

/-- Two texts, of which the second has no tokens of its own. Its row is filled up with the end
    token, which decoding skips. -/
theorem decode_rows_of_end : ∃ (t : Tokenizer Float) (batch : Batch Nat) (encoded : Encoded)
    (cells : List Nat), t.vocabulary.tokens.toList = ["<unk>", "<bos>", "<eos>"] ∧
    (Batch.encode t ⟨1, .off⟩ (.many ["<unk>", ""]) none (some .all)).result = .ok batch ∧
    (t.encode "" none (some .all)).result = .ok encoded ∧ encoded.ids = [1, 2] ∧
    batch.width = 3 ∧ batch.rows[1]? = some cells ∧
    t.decode (cells.map Int.ofNat) = t.decode (encoded.ids.map Int.ofNat) := by
  rcases exists_bounded (Config.uncapped true) with ⟨t, hconfig, hv, hbounds, htokenize⟩
  rcases hbounds t.config (by rw [hconfig]; rfl) with ⟨hstart, hend⟩
  have heos : t.vocabulary.special.eos ≠ none := by
    intro hnone
    rw [endIds, hnone, Option.toList_none, ite_self] at hend
    cases hend
  have hcap : (Option.getD none t.config).cap = none := by
    rw [Option.getD_none, hconfig]
    rfl
  have hids : ∀ tokens, (t.wrap (Option.getD none t.config) tokens 0).ids
      = [1] ++ tokens.map t.vocabulary.lookup ++ [2] := by
    intro tokens
    rw [wrap, Option.getD_none, hstart, hend]
  have hfirst := result_encode_tokens "<unk>" (some SpecialPolicy.all) hcap
  rw [htokenize "<unk>" none ["<unk>"] (by decide +kernel)] at hfirst
  have hsecond := result_encode_tokens "" (some SpecialPolicy.all) hcap
  rw [htokenize "" none [] rfl] at hsecond
  have hbatch := @Batch.result_encode_of_rows _ _ t ⟨1, .off⟩ _ _ _ _
    (.cons hfirst (.cons hsecond .nil))
  rcases decode_rows hbatch with ⟨_, hrows⟩
  rcases hrows 1 "" rfl with ⟨encoded, cells, hencoded, hcells, _, hsame⟩
  have hwrapped : encoded = t.wrap (Option.getD none t.config) [] 0 :=
    Except.ok.inj (hencoded.symm.trans hsecond)
  refine ⟨t, _, encoded, cells, hv, hbatch, hencoded, ?_, ?_, hcells, hsame (Or.inr (Or.inl heos))⟩
  · rw [hwrapped, hids]
    rfl
  · show (Batch.pad _ t.padId [(t.wrap _ ["<unk>"] 0).ids, (t.wrap _ [] 0).ids]).width = 3
    rw [hids, hids, Option.getD_none, hconfig]
    rfl

/-- Two texts of one letter and of two, with neither a padding token nor an end token. The row of
    the first is filled up with the letter itself, which has the id zero, and comes back as the
    other text. -/
theorem decode_rows_ne : ∃ (t : Tokenizer Float) (batch : Batch Nat) (encoded : Encoded)
    (cells : List Nat), t.vocabulary.tokens.toList = ["a", "<unk>"] ∧
    (Batch.encode t ⟨1, .off⟩ (.many ["a", "aa"])).result = .ok batch ∧
    (t.encode "a").result = .ok encoded ∧ batch.rows[0]? = some cells ∧
    t.decode (cells.map Int.ofNat) = .ok "aa" ∧
    t.decode (encoded.ids.map Int.ofNat) = .ok "a" := by
  have htokens : ["a", "<unk>"].Nodup := by decide
  rcases Vocabulary.exists_ofUnknown htokens 1 (by decide) with ⟨v, _, hv, hspecial⟩
  let b : BytePair := ⟨⟨.empty⟩, SplitPattern.Named.gpt2.pattern, false, false, none⟩
  let t : Tokenizer Float := ⟨v, Config.uncapped false, false, false, none, .bytePair b⟩
  -- No rule fits, so a text of letters has one token for each of them.
  have hsegment : b.segment ['a'] = ["a"] ∧ b.segment ['a', 'a'] = ["a", "a"] := by
    have hchunks : b.pattern.chunks ['a'] = [['a']] ∧
        b.pattern.chunks ['a', 'a'] = [['a', 'a']] := by
      decide +kernel
    have hrank : b.rules.rank? "a" "a" = none := MergeRules.rank?_eq_none List.not_mem_nil
    refine ⟨?_, ?_⟩
    · rw [BytePair.segment_of_chunk (b := b) rfl rfl hchunks.1]
      exact MergeRules.apply_singleton "a"
    · rw [BytePair.segment_of_chunk (b := b) rfl rfl hchunks.2]
      exact MergeRules.apply_pair_of_none hrank
  have hlookup : v.lookup "a" = 0 := Vocabulary.lookup_of_toList hv rfl
  have hencode : ∀ (text : String) (tokens : List String), b.segment text.toList = tokens →
      (t.encode text).result = .ok (t.wrap t.config tokens 0) := by
    intro text tokens h
    rw [result_encode_tokens text none rfl, result_tokenize_plain (Or.inl rfl), ← h]
    rfl
  have hfirst := hencode "a" ["a"] hsegment.1
  have hsecond := hencode "aa" ["a", "a"] hsegment.2
  have hone : (t.wrap t.config ["a"] 0).ids = [0] := by
    show [v.lookup "a"] = [0]
    rw [hlookup]
  have htwo : (t.wrap t.config ["a", "a"] 0).ids = [0, 0] := by
    show [v.lookup "a", v.lookup "a"] = [0, 0]
    rw [hlookup]
  have hbatch := @Batch.result_encode_of_rows _ _ t ⟨1, .off⟩ _ _ _ _
    (.cons hfirst (.cons hsecond .nil))
  have hpad : t.padId = 0 := by
    rw [padId, hspecial]
    rfl
  have hknown : t.known 0 = ("a", false) := by
    have htoken : v.token? 0 = some "a" := Vocabulary.token?_of_toList hv 0
    rw [known_eq htoken, Vocabulary.isSpecial, Vocabulary.specialIds_of_unknown hspecial]
    rfl
  have hlt : ∀ id ∈ [0, 0], id < t.vocabulary.size := by
    intro id hid
    rw [List.eq_of_mem_replicate (n := 2) hid, ← hlookup]
    exact v.lookup_lt "a"
  refine ⟨t, _, _, [0, 0], hv, hbatch, hfirst, ?_, ?_, ?_⟩
  · show (Batch.pad _ t.padId [(t.wrap t.config ["a"] 0).ids,
      (t.wrap t.config ["a", "a"] 0).ids]).rows[0]? = _
    rw [hone, htwo, hpad]
    rfl
  · rw [decode_eq hlt, joinKept, if_pos rfl, List.map_cons, List.map_cons, hknown]
    rfl
  · rw [hone, decode_eq (fun id hid => hlt id (List.mem_cons_of_mem 0 hid)), joinKept, if_pos rfl,
      List.map_cons, hknown]
    rfl

end Tokenizer

end Subword
