import Subword.Proofs.WordPiece.Normalize

/-!
# Words come back with spaces between them

Putting tokens together again sees nothing but the tokens, and has to tell the
first piece of a word from the others. It can because every number sign is a word
of its own: no piece that stands for a word or its beginning starts with the
mark, and every other piece does.

The pieces of a word then put the word behind the text so far, with a space in
front of it if there is any. So the tokens of a text become its words with single
spaces between them. These are found again as words, and cleaning leaves them as
they are, which is why the new text has the tokens of the old one.

## Main definitions

* `WordPiece.Telling`: A mark that tells pieces inside a word from the first one.

## Theorems

* `WordPiece.telling_of_signs`: Two number signs are such a mark.
* `WordPiece.exists_greedy`: A word without the unknown token is taken apart.
* `WordPiece.foldl_word`: The pieces of a word add the word.
* `WordPiece.join_segment`: The tokens of a text are joined to its words.
* `WordPiece.decode_encode_words`: The words of a text come back from its ids.
-/

namespace Subword

namespace WordPiece

variable {w : WordPiece} {v : Vocabulary} {s word part done : List Char} {cuts : List Nat}
  {start stop : Nat}

/-- A mark that no part of a word begins with. -/
structure Telling (w : WordPiece) : Prop where
  ne_nil : w.mark.toList ≠ []
  begins_no_part : ∀ part, isWordPart part = true → ¬ w.mark.toList <+: part

/-- Two number signs are such a mark, as each of them is a word of its own. -/
theorem telling_of_signs (h : w.mark = "##") : w.Telling := by
  have hsigns : w.mark.toList = ['#', '#'] := by
    rw [h]
    rfl
  refine ⟨by rw [hsigns]; exact List.cons_ne_nil _ _, ?_⟩
  rw [hsigns]
  intro part hpart hbegins
  rcases (isWordPart_iff.1 hpart).2 with ⟨hlength, _⟩ | hplain
  · -- A single character is too short.
    have hle := hbegins.length_le
    rw [hlength] at hle
    exact absurd hle (by decide)
  · have hsign := hplain '#' (hbegins.subset List.mem_cons_self)
    rw [contains_plain] at hsign
    exact absurd hsign (by decide +kernel)

/-! ## Pieces put together again -/

/-- A piece that carries the mark is put right behind the text. -/
theorem joinStep_inner (h : w.Telling) (begun : Bool) (done part : List Char) :
    w.joinStep (begun, done) (w.mark ++ String.ofList part, false)
      = (true, part.reverse ++ done) := by
  have hlist : (w.mark ++ String.ofList part).toList = w.mark.toList ++ part := by
    rw [String.toList_append, String.toList_ofList]
  have hmarked : w.mark.toList.isPrefixOf (w.mark.toList ++ part) = true :=
    List.isPrefixOf_iff_prefix.2 (List.prefix_append _ _)
  have hsome : w.mark.toList.isEmpty = false := List.isEmpty_eq_false_iff.2 h.ne_nil
  rw [joinStep]
  dsimp only
  rw [hlist, hmarked, hsome, Bool.not_false, Bool.and_true, Bool.and_true, if_pos rfl,
    List.drop_left, List.reverseAux_eq]

/-- Any other piece has a space in front, if it is not the first. -/
theorem joinStep_first (h : w.Telling) (hpart : isWordPart part = true) (begun : Bool)
    (done : List Char) : w.joinStep (begun, done) (String.ofList part, false)
      = (true, part.reverse ++ if begun then ' ' :: done else done) := by
  have hmarked : w.mark.toList.isPrefixOf part = false := by
    rw [← Bool.not_eq_true, List.isPrefixOf_iff_prefix]
    exact h.begins_no_part part hpart
  rw [joinStep]
  dsimp only
  rw [String.toList_ofList, hmarked, Bool.and_false, if_neg Bool.false_ne_true,
    List.reverseAux_eq]

theorem extract_append_drop (hle : start ≤ stop) (word : List Char) :
    word.extract start stop ++ word.drop stop = word.drop start := by
  have hdrop : word.drop stop = (word.drop start).drop (stop - start) := by
    rw [List.drop_drop, Nat.add_sub_cancel' hle]
  rw [List.extract_eq_take_drop, hdrop, List.take_append_drop]

/-- The pieces from a place inside a word on add what is left of it. -/
theorem foldl_inner (h : w.Telling) (hcuts : w.Greedy v word start cuts) (hpos : 0 < start)
    (done : List Char) :
    ((w.piecesAt word cuts).map fun piece => (piece, false)).foldl w.joinStep (true, done)
      = (true, (word.drop start).reverse ++ done) := by
  -- By the places that are left. Each piece adds what is between two of them.
  induction cuts generalizing start done with
  | nil => cases hcuts.head
  | cons first more ih =>
    rcases greedy_iff.1 hcuts with ⟨rfl, heq⟩ | ⟨stop, rest, heq, hstop, hgreedy⟩
    · rw [heq, piecesAt_singleton, List.drop_length]
      rfl
    · rw [List.cons.injEq] at heq
      rcases heq with ⟨rfl, rfl⟩
      have hlt := hstop.lt
      have hpiece : w.pieceAt word first stop
          = w.mark ++ String.ofList (word.extract first stop) := by
        rw [pieceAt, markAt_of_lt hpos]
      rw [piecesAt_cons hgreedy, List.map_cons, List.foldl_cons, hpiece, joinStep_inner h,
        ih hgreedy (by omega), ← extract_append_drop (Nat.le_of_lt hlt) word, List.reverse_append,
        List.append_assoc]

/-- The pieces of a word add the word, with a space in front if it is not the first. -/
theorem foldl_word (h : w.Telling) (hpart : isWordPart word = true)
    (hcuts : w.Greedy v word 0 cuts) (begun : Bool) (done : List Char) :
    ((w.piecesAt word cuts).map fun piece => (piece, false)).foldl w.joinStep (begun, done)
      = (true, word.reverse ++ if begun then ' ' :: done else done) := by
  have hne := (isWordPart_iff.1 hpart).1
  rcases greedy_iff.1 hcuts with ⟨hend, _⟩ | ⟨stop, more, rfl, hstop, hgreedy⟩
  · exact absurd (List.length_eq_zero_iff.1 hend.symm) hne
  · have hpiece : w.pieceAt word 0 stop = String.ofList (word.extract 0 stop) := by
      rw [pieceAt, markAt_zero, String.empty_append]
    have hfirst := joinStep_first h (isWordPart_extract hpart hstop.lt hstop.le) begun done
    rw [piecesAt_cons hgreedy, List.map_cons, List.foldl_cons, hpiece, hfirst,
      foldl_inner h hgreedy hstop.lt, ← List.append_assoc, ← List.reverse_append,
      extract_append_drop (Nat.zero_le stop), List.drop_zero]

/-- A word that does not become the unknown token is taken apart by longest pieces. -/
theorem exists_greedy (h : v.unkToken ∉ w.splitWord v word) :
    ∃ cuts, w.Greedy v word 0 cuts ∧ w.splitWord v word = w.piecesAt word cuts := by
  rw [splitWord] at h ⊢
  split at h
  · exact absurd (List.mem_singleton_self _) h
  · next hshort =>
    rw [if_neg hshort]
    cases hpieces : w.pieces? v word with
    | none =>
      rw [hpieces] at h
      exact absurd (List.mem_singleton_self _) h
    | some pieces =>
      rcases pieces?_iff.1 hpieces with ⟨cuts, hcuts, heq⟩
      exact ⟨cuts, hcuts, heq⟩

/-- The pieces of some words add each of them with a space in front. -/
theorem foldl_words (h : w.Telling) {found : List (List Char)}
    (hparts : ∀ word ∈ found, isWordPart word = true)
    (hunknown : v.unkToken ∉ found.flatMap (w.splitWord v)) (done : List Char) :
    ((found.flatMap (w.splitWord v)).map fun piece => (piece, false)).foldl w.joinStep (true, done)
      = (true, (found.flatMap (' ' :: ·)).reverse ++ done) := by
  induction found generalizing done with
  | nil => rfl
  | cons word more ih =>
    rw [List.flatMap_cons, List.mem_append, not_or] at hunknown
    rcases exists_greedy hunknown.1 with ⟨cuts, hcuts, heq⟩
    have hword := foldl_word h (hparts word List.mem_cons_self) hcuts true done
    have hmore := ih (fun other hother => hparts other (List.mem_cons_of_mem word hother))
      hunknown.2 (word.reverse ++ ' ' :: done)
    rw [if_pos rfl] at hword
    rw [List.flatMap_cons, List.map_append, List.foldl_append, heq, hword, hmore, List.flatMap_cons,
      List.reverse_append, List.reverse_cons]
    simp only [List.append_assoc, List.singleton_append]

/-- The tokens of a text are joined to its words, with single spaces between them. -/
theorem join_segment (h : w.Telling) (hunknown : v.unkToken ∉ w.segment v s) :
    w.join ((w.segment v s).map fun token => (token, false))
      = String.ofList ([' '].intercalate (words s)) := by
  have hparts : ∀ word ∈ words s, isWordPart word = true := fun _ => isWordPart_of_mem_words
  rw [segment] at hunknown ⊢
  rw [join]
  cases hwords : words s with
  | nil => rfl
  | cons word more =>
    rw [hwords] at hparts hunknown
    rw [List.flatMap_cons, List.mem_append, not_or] at hunknown
    rcases exists_greedy hunknown.1 with ⟨cuts, hcuts, heq⟩
    -- Nothing stands in front of the first word. The others come behind a text that has begun.
    have hword := foldl_word h (hparts word List.mem_cons_self) hcuts false []
    have hmore := foldl_words h
      (fun other hother => hparts other (List.mem_cons_of_mem word hother)) hunknown.2 word.reverse
    rw [if_neg Bool.false_ne_true, List.append_nil] at hword
    rw [List.flatMap_cons, List.map_append, List.foldl_append, heq, hword, hmore,
      Text.intercalate_cons, List.reverse_append, List.reverse_reverse, List.reverse_reverse]

/-! ## Whole texts -/

variable {S : Type} {t : Tokenizer S}

theorem mem_of_mem_words {c : Char} (hword : word ∈ words s) (hc : c ∈ word) : c ∈ s := by
  have hflat : c ∈ (scan s).flatten := by
    rw [← words_eq]
    exact List.mem_flatten_of_mem hword hc
  rw [scan, flatten_scanFrom, List.nil_append] at hflat
  exact (List.mem_filter.1 hflat).1

/-- Without lower case and with accents kept, the words of a normalised text are left as they are
    when they are normalised with spaces between them. -/
theorem normalize_words (w : WordPiece) (hstrip : w.stripAccents.getD false = false)
    (s : List Char) : w.normalize false ([' '].intercalate (words (w.normalize false s)))
      = [' '].intercalate (words (w.normalize false s)) := by
  have hnormal : ∀ s, w.normalize false s = if w.cleanText then clean s else s := by
    intro s
    rw [normalize, hstrip]
    rfl
  have hword : ∀ word ∈ words (w.normalize false s), w.normalize false word = word := by
    intro word hword
    rw [hnormal]
    split
    · next hclean =>
      apply clean_eq_self
      intro c hc
      have hmem := mem_of_mem_words hword hc
      rw [hnormal, if_pos hclean] at hmem
      rcases List.mem_filterMap.1 hmem with ⟨d, _, hd⟩
      exact cleanChar_fixed hd
    · rfl
  have hnil : w.normalize false [] = [] := by
    rw [hnormal]
    split <;> rfl
  rw [(normalize_partsAt_space w false).intercalate hnil, List.map_congr_left hword, List.map_id'']
  exact fun _ => rfl

/-- The words of a normalised text, with single spaces between them, come back from its ids, if
    none of those inside the sequence is special. Without lower case and with accents kept, the
    words have the same ids again. -/
theorem decode_encode_words [Score S] (hmodel : t.model = .wordPiece w) (hmark : w.mark = "##")
    (hpolicy : t.policy = none) (text : String) {config : Option Config}
    (hcap : (config.getD t.config).cap = none) :
    ∃ encoded, (t.encode text config).result = .ok encoded ∧
      ((∀ i id : Nat, encoded.mask[i]? = some 0 → encoded.ids[i]? = some id →
          t.vocabulary.isSpecial id = false) →
        ∃ decoded, t.decode (encoded.ids.map Int.ofNat) = .ok decoded ∧
          decoded = " ".intercalate ((words (w.normalize (config.getD t.config).lowercase
            text.toList)).map String.ofList) ∧
          ((config.getD t.config).lowercase = false → w.stripAccents.getD false = false →
            (t.encode decoded config).result = .ok encoded)) := by
  have hencode : ∀ text, (t.encode text config).result = .ok (t.wrap (config.getD t.config)
      (w.segment t.vocabulary (w.normalize (config.getD t.config).lowercase text.toList)) 0) := by
    intro text
    rw [Tokenizer.result_encode_tokens text none hcap, result_tokenize hmodel hpolicy]
    rfl
  refine ⟨_, hencode text, ?_⟩
  intro hordinary
  have hlookup : ∀ token ∈ w.segment t.vocabulary
      (w.normalize (config.getD t.config).lowercase text.toList),
      t.vocabulary.isSpecial (t.vocabulary.lookup token) = false := by
    intro token htoken
    rcases Tokenizer.exists_place_wrap (t := t) (config.getD t.config) 0 htoken with
      ⟨i, hmask, hid, _⟩
    exact hordinary i _ hmask hid
  have hunknown : t.vocabulary.unkToken ∉ w.segment t.vocabulary
      (w.normalize (config.getD t.config).lowercase text.toList) :=
    fun hmem => Vocabulary.ne_unkToken_of_lookup (hlookup _ hmem) rfl
  have hjoin : ∀ tokens, t.join tokens = w.join tokens := by
    intro tokens
    rw [Tokenizer.join, hmodel]
  refine ⟨_, Tokenizer.decode_wrap_skip _ 0
    fun token htoken => Vocabulary.exists_id_of_lookup (hlookup token htoken), ?_, ?_⟩
  · rw [hjoin, join_segment (telling_of_signs hmark) hunknown, Text.intercalate_ofList]
  · intro hlower hstrip
    -- The words are found again, and they are all that the tokens depend on.
    rw [hjoin, join_segment (telling_of_signs hmark) hunknown, hencode, hlower,
      String.toList_ofList, normalize_words w hstrip]
    have hwords := words_intercalate fun _ => @isWordPart_of_mem_words
      (w.normalize false text.toList) _
    simp only [segment, hwords]

theorem words_signs :
    words (normalize {} false "unable##".toList) = ["unable".toList, ['#'], ['#']] := by
  rw [words_eq]
  decide +kernel

/-- The longest pieces of a word, and a number sign that is a word each time. -/
theorem segment_signs {v : Vocabulary}
    (hv : v.tokens.toList = ["[UNK]", "[CLS]", "[SEP]", "un", "##able", "#"]) :
    segment {} v (normalize {} false "unable##".toList) = ["un", "##able", "#", "#"] := by
  have hlongest : ∀ start stop, start < stop → stop ≤ 6 →
      pieceAt {} "unable".toList start stop ∈ v.tokens.toList →
      (∀ further < 7, stop < further →
        pieceAt {} "unable".toList start further ∉ v.tokens.toList) →
      Longest {} v "unable".toList 6 start stop := by
    intro start stop hlt hle hmem hno
    refine ⟨hlt, hle, Vocabulary.contains_iff.2 hmem, ?_⟩
    intro further hfurther hlimit
    rw [← Bool.not_eq_true, Vocabulary.contains_iff]
    exact hno further (by omega) hfurther
  rw [hv] at hlongest
  have hcuts : Greedy {} v "unable".toList 0 [0, 2, 6] := by
    refine ⟨rfl, rfl, ?_⟩
    simp only [List.isChain_cons_cons]
    refine ⟨hlongest 0 2 ?_ ?_ ?_ ?_, hlongest 2 6 ?_ ?_ ?_ ?_, List.isChain_singleton 6⟩
    all_goals decide
  have hword : splitWord {} v "unable".toList = ["un", "##able"] := by
    rw [splitWord, pieces?_iff.2 ⟨_, hcuts, rfl⟩]
    rfl
  have hsign : splitWord {} v ['#'] = ["#"] := by
    apply splitWord_of_contains rfl (List.cons_ne_nil _ _)
    rw [Vocabulary.contains_iff, hv]
    decide
  rw [segment, words_signs, List.flatMap_cons, List.flatMap_cons, List.flatMap_cons, hword, hsign]
  rfl

/-- A word in two pieces, and two number signs behind it that are no mark. -/
theorem decode_encode_words_of_signs : ∃ t : Tokenizer Float, t.model = .wordPiece {} ∧
    ∃ encoded, (t.encode "unable##").result = .ok encoded ∧
      encoded.tokens = ["[CLS]", "un", "##able", "#", "#", "[SEP]"] ∧
      t.decode (encoded.ids.map Int.ofNat) = .ok "unable # #" ∧
      (t.encode "unable # #").result = .ok encoded := by
  have hnodup : ["[UNK]", "[CLS]", "[SEP]", "un", "##able", "#"].Nodup := by decide
  rcases Vocabulary.exists_ofBounds hnodup (by decide) with ⟨v, hv, hspecial, hids⟩
  let t : Tokenizer Float := ⟨v, Config.uncapped true, true, true, none, .wordPiece {}⟩
  have hcap : (Option.none.getD t.config).cap = none := rfl
  rcases decode_encode_words (t := t) rfl rfl rfl "unable##" hcap with ⟨encoded, hencode, hback⟩
  have htokens : (t.tokenize "unable##").result = .ok ["un", "##able", "#", "#"] := by
    rw [result_tokenize (t := t) rfl rfl, ← segment_signs hv]
    rfl
  have hwrap := Tokenizer.eq_wrap_of_encode hcap htokens hencode
  have hplain : encoded.ids = [1, 3, 4, 5, 5, 2] ∧ encoded.mask = [1, 0, 0, 0, 0, 1] ∧
      encoded.tokens = ["[CLS]", "un", "##able", "#", "#", "[SEP]"] := by
    have hun : v.lookup "un" = 3 := Vocabulary.lookup_of_toList hv rfl
    have hable : v.lookup "##able" = 4 := Vocabulary.lookup_of_toList hv rfl
    have hsign : v.lookup "#" = 5 := Vocabulary.lookup_of_toList hv rfl
    rcases Tokenizer.ends_of_bounds (t := t) hspecial rfl rfl t.config rfl with ⟨hstart, hend⟩
    rw [hwrap, Option.getD_none, Tokenizer.wrap, hstart, hend]
    simp only [List.map_cons, List.map_nil, Tokenizer.tokenOf, t, hun, hable, hsign,
      Vocabulary.token?_of_toList hv]
    exact ⟨rfl, rfl, rfl⟩
  have hordinary : ∀ i id : Nat, encoded.mask[i]? = some 0 → encoded.ids[i]? = some id →
      v.isSpecial id = false := by
    have hall : ∀ i < 6, [1, 0, 0, 0, 0, 1][i]? = some 0 →
        ∀ id ∈ [1, 3, 4, 5, 5, 2][i]?, 2 < id := by
      decide
    intro i id hmask hid
    have hlt := (List.getElem?_eq_some_iff.1 hmask).1
    rw [hplain.2.1] at hmask hlt
    rw [hplain.1] at hid
    exact Vocabulary.isSpecial_of_bounds hids (hall i hlt hmask id hid)
  rcases hback hordinary with ⟨decoded, hdecode, hdecoded, hagain⟩
  have hsame : decoded = "unable # #" := by
    have hshown : decoded = " ".intercalate
        ((words (normalize {} false "unable##".toList)).map String.ofList) := hdecoded
    rw [hshown, words_signs]
    rfl
  rw [hsame] at hdecode hagain
  exact ⟨t, rfl, encoded, hencode, hplain.2.2, hdecode, hagain rfl rfl⟩

end WordPiece

end Subword
