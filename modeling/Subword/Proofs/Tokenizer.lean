import Subword.Proofs.Outcome
import Subword.Proofs.Text.Search
import Subword.Proofs.Vocabulary
import Subword.Tokenizer

/-!
# Encoding and then decoding

What all ways of segmentation share between a text and its ids. Without a cap
nothing is cut away, so the ids of a text are those of all its tokens inside
the wrapping. Every id that comes out is in range, so decoding it cannot fail,
and what decoding joins is said by a function of the ids.

Setting special tokens apart does not change a text: the parts make the text
again, and those that are matched are special tokens.

## Main definitions

* `Config.uncapped`: Options without a cap.
* `Tokenizer.known`: The token with an id, and whether it is special.

## Theorems

* `Vocabulary.exists_id_of_bounds`: Tokens behind the special ones are found.
* `Tokenizer.decode_eq`: Ids in range are decoded.
* `Tokenizer.result_encode_room`: Encoding in steps: room, tokens, wrapping.
* `Tokenizer.result_encode`: Under no cap, all tokens of a text are wrapped.
* `Tokenizer.eq_wrap_of_encode`: So what comes out are these, wrapped.
* `Tokenizer.decode_wrap`: The ids of a sequence are decoded.
* `Tokenizer.decode_wrap_skip`: Without special tokens, only its own tokens are.
* `Tokenizer.split_plain`: A text in which nothing is looked for is left whole.
* `Tokenizer.result_tokenize_plain`: So it is tokenized in one go.
* `Tokenizer.split_cases`: A text is left whole or cut at special tokens.
* `Tokenizer.split_spec`: The parts of a text make the text.
-/

namespace Subword

theorem Config.cap_pos_none : ∀ n : Nat, none = some n → 0 < n :=
  fun n h => absurd h.symm (Option.some_ne_none n)

theorem Config.capped_longest {cap : Option Nat} : Padding.longest = .toCap → cap ≠ none :=
  fun h => absurd h (by decide)

/-- Options without a cap, and otherwise as usual, with the tokens around a text or without. -/
def Config.uncapped (addSpecial : Bool) : Config where
  cap := none
  lowercase := false
  addSpecial := addSpecial
  paddingSide := .right
  truncationSide := .right
  padding := .longest
  cap_pos := Config.cap_pos_none
  capped := Config.capped_longest

namespace Vocabulary

variable {v : Vocabulary}

theorem lt_size_of_token? {id : Nat} {token : String} (h : v.token? id = some token) :
    id < v.size :=
  (Array.getElem?_eq_some_iff.1 h).1

/-- Every token is looked up in range, since the unknown token is. -/
theorem lookup_lt (v : Vocabulary) (token : String) : v.lookup token < v.size := by
  cases h : v.get? token with
  | none =>
    rw [lookup, h, Option.getD_none]
    exact lt_size_of_token? v.token?_unk
  | some id =>
    rw [lookup, h, Option.getD_some]
    exact lt_size_of_token? (get?_eq_some_iff.1 h)

theorem bos_mem {id : Nat} (h : v.special.bos = some id) : id ∈ v.specialIds := by
  rw [v.specialIds_eq, SpecialTokens.ids, mem_sortedIds, h]
  simp only [Option.toList_some, List.cons_append, List.mem_cons, List.mem_append, true_or,
    or_true]

theorem eos_mem {id : Nat} (h : v.special.eos = some id) : id ∈ v.specialIds := by
  rw [v.specialIds_eq, SpecialTokens.ids, mem_sortedIds, h]
  simp only [Option.toList_some, List.cons_append, List.mem_cons, List.mem_append, true_or,
    or_true]

section

variable {tokens : List String}

/-- Tokens have their places in the list as ids. -/
theorem token?_of_toList (hv : v.tokens.toList = tokens) (id : Nat) :
    v.token? id = tokens[id]? := by
  rw [v.token?_eq_getElem?, hv]

theorem lookup_of_toList (hv : v.tokens.toList = tokens) {id : Nat} {token : String}
    (h : tokens[id]? = some token) : v.lookup token = id := by
  apply lookup_eq
  rw [token?_of_toList hv, h]

theorem isSpecial_of_bounds (hids : v.specialIds = [0, 1, 2]) {id : Nat} (hlt : 2 < id) :
    v.isSpecial id = false := by
  have hlarge : id ∉ [0, 1, 2] := by
    simp only [List.mem_cons, List.not_mem_nil, or_false]
    omega
  rwa [isSpecial, hids, Bool.eq_false_iff, Ne, List.contains_iff_mem]

/-- When the first three tokens are special, those behind them are found and are not. -/
theorem exists_id_of_bounds (hv : v.tokens.toList = tokens) (hids : v.specialIds = [0, 1, 2])
    {token : String} (hmem : token ∈ tokens.drop 3) :
    ∃ id, v.get? token = some id ∧ v.isSpecial id = false := by
  rcases List.mem_iff_getElem?.1 hmem with ⟨place, hplace⟩
  rw [List.getElem?_drop] at hplace
  refine ⟨3 + place, get?_eq_some_iff.2 ?_, isSpecial_of_bounds hids (by omega)⟩
  rw [token?_of_toList hv, hplace]

end

end Vocabulary

namespace SpecialPolicy

theorem result_allowed_all (text : List Char) (literals : List (String × Nat)) :
    (all.allowed text literals).result = .ok literals := by
  unfold SpecialPolicy.allowed
  dsimp only
  split <;> rfl

theorem result_allowed_none (text : List Char) (literals : List (String × Nat)) :
    (none.allowed text literals).result = .ok [] := by
  unfold SpecialPolicy.allowed
  dsimp only
  split <;> rfl

theorem eq_nil_of_allowed_refuse {text : List Char} {literals allowed : List (String × Nat)}
    (h : (refuse.allowed text literals).result = .ok allowed) : allowed = [] := by
  unfold SpecialPolicy.allowed at h
  dsimp only at h
  split at h
  · rw [Outcome.result_pure, Except.ok.injEq] at h
    exact h.symm
  · cases h

/-- A policy allows none but the special tokens it is given. -/
theorem mem_of_mem_allowed {policy : SpecialPolicy} {text : List Char}
    {literals allowed : List (String × Nat)}
    (h : (policy.allowed text literals).result = .ok allowed) {literal : String × Nat}
    (hmem : literal ∈ allowed) : literal ∈ literals := by
  cases policy with
  | all =>
    rw [result_allowed_all, Except.ok.injEq] at h
    rwa [h]
  | none =>
    rw [result_allowed_none, Except.ok.injEq] at h
    rw [← h] at hmem
    exact absurd hmem List.not_mem_nil
  | refuse =>
    rw [eq_nil_of_allowed_refuse h] at hmem
    exact absurd hmem List.not_mem_nil
  | only chosen =>
    unfold SpecialPolicy.allowed at h
    rw [Outcome.result_pure, Except.ok.injEq] at h
    rw [← h] at hmem
    exact (List.mem_filter.1 hmem).1

end SpecialPolicy

namespace Tokenizer

variable {S : Type} {t : Tokenizer S}

/-! ## Decoding ids in range -/

/-- The token with an id, and whether it is special. -/
def known (t : Tokenizer S) (id : Nat) : String × Bool :=
  (t.tokenOf id, t.vocabulary.isSpecial id)

theorem known_eq {id : Nat} {token : String} (h : t.vocabulary.token? id = some token) :
    t.known id = (token, t.vocabulary.isSpecial id) := by
  rw [known, tokenOf, h, Option.getD_some]

/-- A token that is looked up is known by its id. -/
theorem known_lookup {token : String} {id : Nat} (h : t.vocabulary.token? id = some token) :
    t.known (t.vocabulary.lookup token) = (token, t.vocabulary.isSpecial id) := by
  rw [Vocabulary.lookup_eq h, known_eq h]

/-- Tokens of the vocabulary that are not special are known as they are. -/
theorem map_known_lookup {tokens : List String} (h : ∀ token ∈ tokens, ∃ id,
      t.vocabulary.token? id = some token ∧ t.vocabulary.isSpecial id = false) :
    tokens.map (fun token => t.known (t.vocabulary.lookup token))
      = tokens.map fun token => (token, false) := by
  apply List.map_congr_left
  intro token hmem
  rcases h token hmem with ⟨id, htoken, hspecial⟩
  rw [known_lookup htoken, hspecial]

/-- The tokens of special ids are known to be special. -/
theorem map_known_special {ids : List Nat} (h : ∀ id ∈ ids, id ∈ t.vocabulary.specialIds) :
    ids.map t.known = (ids.map t.tokenOf).map fun token => (token, true) := by
  rw [List.map_map]
  apply List.map_congr_left
  intro id hid
  rw [known, Vocabulary.isSpecial_iff.2 (h id hid)]
  rfl

/-- Special tokens are left out if they are to be skipped. -/
theorem filter_tokens (front tokens back : List String) :
    ((front.map fun token => (token, true)) ++ (tokens.map fun token => (token, false)) ++
      back.map fun token => (token, true)).filter (fun token => !token.2)
      = tokens.map fun token => (token, false) := by
  have hspecial : ∀ list : List String,
      (list.map fun token => (token, true)).filter (fun token => !token.2) = [] := by
    intro list
    rw [List.filter_eq_nil_iff, List.forall_mem_map]
    intro token _
    exact Bool.false_ne_true
  have hplain : (tokens.map fun token => (token, false)).filter (fun token => !token.2)
      = tokens.map fun token => (token, false) := by
    rw [List.filter_eq_self, List.forall_mem_map]
    intro token _
    rfl
  rw [List.filter_append, List.filter_append, hspecial, hspecial, hplain, List.append_nil,
    List.nil_append]

theorem resolve_eq {id : Nat} (h : id < t.vocabulary.size) :
    t.resolve (Int.ofNat id) = .ok (t.known id) := by
  have htoken : t.vocabulary.token? id = some t.vocabulary.tokens.keys[id] :=
    Array.getElem?_eq_getElem h
  have hreverse : t.vocabulary.reverse (Int.ofNat id) = .ok t.vocabulary.tokens.keys[id] :=
    Vocabulary.reverse_eq htoken
  rw [resolve, hreverse, known_eq htoken]
  rfl

/-- Ids in range are decoded. -/
theorem decode_eq {ids : List Nat} (h : ∀ id ∈ ids, id < t.vocabulary.size)
    (skipSpecial : Bool) : t.decode (ids.map Int.ofNat) skipSpecial
      = .ok (t.joinKept skipSpecial (ids.map t.known)) := by
  have hresolve : (ids.map Int.ofNat).mapM t.resolve
      = .ok (ids.map t.known) := by
    rw [List.mapM_map]
    exact mapM_eq_ok fun id hid => resolve_eq (h id hid)
  rw [decode, hresolve]
  rfl

/-! ## Encoding -/

theorem startIds_mem {config : Config} {id : Nat} (h : id ∈ t.startIds config) :
    id ∈ t.vocabulary.specialIds := by
  unfold startIds at h
  split at h
  · exact Vocabulary.bos_mem (Option.mem_toList.1 h)
  · exact absurd h List.not_mem_nil

theorem endIds_mem {config : Config} {id : Nat} (h : id ∈ t.endIds config) :
    id ∈ t.vocabulary.specialIds := by
  unfold endIds at h
  split at h
  · exact Vocabulary.eos_mem (Option.mem_toList.1 h)
  · exact absurd h List.not_mem_nil

/-- Encoding looks for room first, and then wraps what is kept of the tokens. -/
theorem result_encode_room [Score S] (text : String) (config : Option Config)
    (policy : Option SpecialPolicy) :
    (t.encode text config policy).result = (t.room (config.getD t.config)).bind fun room =>
      (t.tokenize text config policy).result.map fun tokens =>
        let kept := truncate (config.getD t.config).truncationSide room tokens
        t.wrap (config.getD t.config) kept (tokens.length - kept.length) := by
  rw [encode, encodeWith, Outcome.result_bind, Outcome.result_ofExcept, tokenize]
  cases t.room (config.getD t.config) with
  | error e => rfl
  | ok room =>
    dsimp only [Except.bind]
    rw [Outcome.result_bind]
    cases (t.tokenizeWith (config.getD t.config) policy text.toList).result <;> rfl

/-- Under no cap, encoding wraps the tokens of all parts of a text. -/
theorem result_encode [Score S] (text : String) {config : Option Config}
    (policy : Option SpecialPolicy) (hcap : (config.getD t.config).cap = none) :
    (t.encode text config policy).result = (t.split policy text.toList).result.map fun parts =>
      t.wrap (config.getD t.config)
        (parts.flatMap (t.segmentTokens (config.getD t.config))) 0 := by
  have hroom : t.room (config.getD t.config) = .ok none := by
    rw [room, hcap]
  rw [result_encode_room, hroom, tokenize, tokenizeWith, Outcome.result_bind]
  cases (t.split policy text.toList).result with
  | error e => rfl
  | ok parts =>
    -- Nothing is cut away, so nothing is counted as dropped.
    simp only [Except.bind, Except.map, Outcome.result_pure, truncate, Nat.sub_self]

/-- Under no cap, encoding wraps all tokens of a text. -/
theorem result_encode_tokens [Score S] (text : String) {config : Option Config}
    (policy : Option SpecialPolicy) (hcap : (config.getD t.config).cap = none) :
    (t.encode text config policy).result = (t.tokenize text config policy).result.map fun tokens =>
      t.wrap (config.getD t.config) tokens 0 := by
  rw [result_encode text policy hcap, tokenize, tokenizeWith, Outcome.result_bind]
  cases (t.split policy text.toList).result <;> rfl

/-- What a text is encoded to under no cap is its tokens, wrapped. -/
theorem eq_wrap_of_encode [Score S] {text : String} {config : Option Config}
    {policy : Option SpecialPolicy} {tokens : List String} {encoded : Encoded}
    (hcap : (config.getD t.config).cap = none)
    (htokens : (t.tokenize text config policy).result = .ok tokens)
    (hencode : (t.encode text config policy).result = .ok encoded) :
    encoded = t.wrap (config.getD t.config) tokens 0 := by
  rw [result_encode_tokens text policy hcap, htokens] at hencode
  exact (Except.ok.inj hencode).symm

/-- The ids around a text when the second token is for the start and the third for the end. -/
theorem ends_of_bounds (h : t.vocabulary.special = ⟨0, none, some 1, some 2, none, []⟩)
    (hstart : t.addStart = true) (hend : t.addEnd = true) (config : Config)
    (hadd : config.addSpecial = true) :
    t.startIds config = [1] ∧ t.endIds config = [2] := by
  simp only [startIds, endIds, hadd, hstart, hend, h, Bool.and_self, if_true, Option.toList_some,
    and_self]

/-- The ids of a text under no cap. -/
theorem encode_eq [Score S] {text : String} {config : Option Config}
    {policy : Option SpecialPolicy} {parts : List Text.Segment}
    (hcap : (config.getD t.config).cap = none)
    (hsplit : (t.split policy text.toList).result = .ok parts) :
    (t.encode text config policy).result = .ok (t.wrap (config.getD t.config)
      (parts.flatMap (t.segmentTokens (config.getD t.config))) 0) := by
  rw [result_encode text policy hcap, hsplit]
  rfl

theorem encode_error [Score S] {text : String} {config : Option Config}
    {policy : Option SpecialPolicy} {e : Error} (hcap : (config.getD t.config).cap = none)
    (hsplit : (t.split policy text.toList).result = .error e) :
    (t.encode text config policy).result = .error e := by
  rw [result_encode text policy hcap, hsplit]
  rfl

theorem wrap_lt {config : Config} {tokens : List String} {truncated : Nat} :
    ∀ id ∈ (t.wrap config tokens truncated).ids, id < t.vocabulary.size := by
  intro id hid
  rcases List.mem_append.1 hid with hid | hid
  · rcases List.mem_append.1 hid with hid | hid
    · exact t.vocabulary.special_lt id (startIds_mem hid)
    · rcases List.mem_map.1 hid with ⟨token, _, rfl⟩
      exact t.vocabulary.lookup_lt token
  · exact t.vocabulary.special_lt id (endIds_mem hid)

/-- Each token of a sequence stands where the mask is zero, with its id. -/
theorem exists_place_wrap (config : Config) {tokens : List String} (truncated : Nat)
    {token : String} (h : token ∈ tokens) : ∃ i : Nat,
      (t.wrap config tokens truncated).mask[i]? = some 0 ∧
      (t.wrap config tokens truncated).ids[i]? = some (t.vocabulary.lookup token) ∧
      (t.wrap config tokens truncated).tokens[i]? = some token := by
  rcases List.mem_iff_getElem?.1 h with ⟨k, hk⟩
  have hlt := (List.getElem?_eq_some_iff.1 hk).1
  -- What is in front of the sequence is as long in all three lists.
  have hplace : ∀ {α : Type} {front inner back : List α},
      front.length = (t.startIds config).length → inner.length = tokens.length →
      (front ++ inner ++ back)[(t.startIds config).length + k]? = inner[k]? := by
    intro α front inner back hfront hinner
    rw [List.append_assoc, List.getElem?_append_right (by omega), hfront, Nat.add_sub_cancel_left,
      List.getElem?_append_left (by omega)]
  refine ⟨(t.startIds config).length + k, ?_, ?_, ?_⟩
  · rw [wrap, hplace (List.length_map _) (List.length_map _), List.getElem?_map, hk]
    rfl
  · rw [wrap, hplace rfl (List.length_map _), List.getElem?_map, hk]
    rfl
  · rw [wrap, hplace (List.length_map _) rfl, hk]

/-- The ids of a sequence are decoded. -/
theorem decode_wrap (config : Config) (tokens : List String) (truncated : Nat)
    (skipSpecial : Bool) :
    t.decode ((t.wrap config tokens truncated).ids.map Int.ofNat) skipSpecial
      = .ok (t.joinKept skipSpecial ((t.startIds config).map t.known
          ++ tokens.map (fun token => t.known (t.vocabulary.lookup token))
          ++ (t.endIds config).map t.known)) := by
  rw [decode_eq wrap_lt, wrap, List.map_append, List.map_append, List.map_map]
  rfl

/-- Ordinary tokens are joined as if nothing went around them, if special tokens are skipped. -/
theorem decode_wrap_skip (config : Config) {tokens : List String} (truncated : Nat)
    (h : ∀ token ∈ tokens, ∃ id, t.vocabulary.token? id = some token ∧
      t.vocabulary.isSpecial id = false) :
    t.decode ((t.wrap config tokens truncated).ids.map Int.ofNat) true
      = .ok (t.join (tokens.map fun token => (token, false))) := by
  have hstart := map_known_special fun _ => @startIds_mem S t config _
  have hend := map_known_special fun _ => @endIds_mem S t config _
  rw [decode_wrap, hstart, hend, map_known_lookup h, joinKept, if_pos rfl, filter_tokens]

/-! ## Special tokens set apart -/

/-- Without a policy a text is left whole. -/
theorem split_none (h : t.policy = none) (s : List Char) :
    (t.split none s).result = .ok [.plain s] := by
  rw [split, h]
  rfl

/-- A text in which no special tokens are looked for is left whole. -/
theorem split_plain {policy : Option SpecialPolicy}
    (h : policy.or t.policy = none ∨ policy.or t.policy = some .none) (s : List Char) :
    (t.split policy s).result = .ok [.plain s] := by
  unfold split
  rcases h with h | h
  · rw [h]
    rfl
  · rw [h]
    dsimp only
    rw [Outcome.result_bind, SpecialPolicy.result_allowed_none]
    rfl

/-- Such a text is tokenized in one go. -/
theorem result_tokenize_plain [Score S] {policy : Option SpecialPolicy}
    (h : policy.or t.policy = none ∨ policy.or t.policy = some .none) (text : String)
    (config : Option Config) : (t.tokenize text config policy).result
      = .ok (t.segmentTokens (config.getD t.config) (.plain text.toList)) := by
  rw [tokenize, tokenizeWith, Outcome.result_bind_of_ok (split_plain h text.toList),
    Outcome.result_pure, List.flatMap_singleton]

/-- Without a policy every text is tokenized in one go. -/
theorem result_tokenize_none [Score S] (h : t.policy = none) (text : String)
    (config : Option Config) : (t.tokenize text config).result
      = .ok (t.segment (t.normalize (config.getD t.config) text.toList)) := by
  have hplain : (none : Option SpecialPolicy).or t.policy = none := h
  exact result_tokenize_plain (Or.inl hplain) text config

/-- All special tokens of the vocabulary are matched if that is asked for. -/
theorem split_all (s : List Char) : (t.split (some .all) s).result
    = .ok (Text.cut (t.vocabulary.literals.map fun literal => literal.1.toList) s) := by
  -- The unknown token is always special, so there is something to look for.
  have hne : t.vocabulary.literals.isEmpty = false := by
    rw [List.isEmpty_eq_false_iff_exists_mem]
    exact ⟨_, Vocabulary.mem_literals.2 ⟨t.vocabulary.isSpecial_unk, t.vocabulary.token?_unk⟩⟩
  unfold split
  simp only [Option.some_or]
  rw [Outcome.result_bind, SpecialPolicy.result_allowed_all]
  simp only [Except.bind, hne, Bool.false_eq_true, if_false, Outcome.result_pure]

/-- A text without special tokens is not refused. -/
theorem split_refuse {s : List Char}
    (h : SpecialPolicy.occurring s t.vocabulary.literals = []) :
    (t.split (some .refuse) s).result = .ok [.plain s] := by
  have hallowed : SpecialPolicy.refuse.allowed s t.vocabulary.literals = pure [] := by
    rw [SpecialPolicy.allowed, h]
  unfold split
  simp only [Option.some_or, hallowed]
  rfl

/-- A text with special tokens is refused. -/
theorem split_refuse_error {s : List Char}
    (h : SpecialPolicy.occurring s t.vocabulary.literals ≠ []) :
    (t.split (some .refuse) s).result = .error (.specialFound
      ((SpecialPolicy.occurring s t.vocabulary.literals).mergeSort (· ≤ ·))) := by
  unfold split
  simp only [Option.some_or]
  rw [Outcome.result_bind, SpecialPolicy.allowed]
  cases hfound : SpecialPolicy.occurring s t.vocabulary.literals with
  | nil => exact absurd hfound h
  | cons name rest => rfl

/-- A text is left whole or cut at some of the special tokens. -/
theorem split_cases {policy : Option SpecialPolicy} {s : List Char} {parts : List Text.Segment}
    (h : (t.split policy s).result = .ok parts) : parts = [.plain s] ∨
      ∃ allowed : List (String × Nat), (∀ literal ∈ allowed, literal ∈ t.vocabulary.literals) ∧
        parts = Text.cut (allowed.map fun literal => literal.1.toList) s := by
  unfold split at h
  cases hpolicy : policy.or t.policy with
  | none =>
    rw [hpolicy, Outcome.result_pure, Except.ok.injEq] at h
    exact Or.inl h.symm
  | some policy =>
    rw [hpolicy] at h
    rcases Outcome.result_bind_eq_ok_iff.1 h with ⟨allowed, hallowed, h⟩
    split at h
    · rw [Outcome.result_pure, Except.ok.injEq] at h
      exact Or.inl h.symm
    · rw [Outcome.result_pure, Except.ok.injEq] at h
      exact Or.inr ⟨allowed, fun _ => SpecialPolicy.mem_of_mem_allowed hallowed, h.symm⟩

/-- The parts of a text make the text, and those that are matched are special tokens. -/
theorem split_spec {policy : Option SpecialPolicy} {s : List Char} {parts : List Text.Segment}
    (h : (t.split policy s).result = .ok parts) : Text.textOf parts = s ∧
      ∀ l, .literal l ∈ parts → ∃ id, t.vocabulary.token? id = some (String.ofList l) ∧
        t.vocabulary.isSpecial id = true := by
  rcases split_cases h with rfl | ⟨allowed, hallowed, rfl⟩
  · refine ⟨List.append_nil s, ?_⟩
    intro l hl
    cases List.mem_singleton.1 hl
  · refine ⟨Text.textOf_cut _ s, ?_⟩
    intro l hl
    rcases List.mem_map.1 (Text.literal_of_mem_cut hl) with ⟨⟨token, id⟩, hmem, rfl⟩
    rcases Vocabulary.mem_literals.1 (hallowed _ hmem) with ⟨hspecial, htoken⟩
    refine ⟨id, ?_, hspecial⟩
    rw [htoken, String.ofList_toList]

end Tokenizer

end Subword
