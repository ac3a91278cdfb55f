import Subword.Proofs.Tokenizer

/-!
# What encoding keeps

A cap is on all ids, those around a text included, and the ones around it are
never given up. So a cap below their number is refused at once, and any other
leaves some room, which may be none, for the tokens inside. What is kept of
them is a part from one end, and no longer part would have had room.

The ids, the tokens and the mask of a text are made by the same cuts, so they
stay in step. The tokens around a text were found by their ids, and looking
them up leads back to these, because a vocabulary has no token twice.

How many ids a cap allows is a property of the options (`Config.Admits`), and
without a cap it holds of every number. This way nothing has to be said once
for texts with a cap and once for those without.

## Main definitions

* `Side.Keeps`: What is left of a list when one of its ends is cut off.
* `Config.Admits`: A number of ids that the cap allows.
* `Tokenizer.Fits`: What the ids of a text have to be, given its tokens.

## Theorems

* `SpecialPolicy.allowed_error`: Special tokens in a text are all that can be objected to.
* `Tokenizer.keeps_truncate`: Truncation cuts off one end.
* `Tokenizer.longest_truncate`: No longer part would have had room.
* `Tokenizer.Fits.exists_of_mask`: The ids that the mask does not mark are those of tokens.
* `Tokenizer.fits_wrap`: The wrapping around what is kept is what the ids have to be.
* `Tokenizer.result_encode_of_admits`: With room for the wrapping, encoding wraps what is kept.
* `Tokenizer.encode_fits`: When encoding fails, and what it comes to otherwise.
-/

namespace Subword

namespace Side

variable {α : Type}

/-- What is left of a list when one of its ends is cut off. The side is the one that entries
    are dropped from. -/
def Keeps : Side → List α → List α → Prop
  | right, kept, all => kept <+: all
  | left, kept, all => kept <:+ all

theorem Keeps.length_le {side : Side} {kept all : List α} (h : side.Keeps kept all) :
    kept.length ≤ all.length := by
  cases side with
  | left => exact List.IsSuffix.length_le h
  | right => exact List.IsPrefix.length_le h

theorem Keeps.mem {side : Side} {kept all : List α} {a : α} (h : side.Keeps kept all)
    (ha : a ∈ kept) : a ∈ all := by
  cases side with
  | left => exact List.IsSuffix.mem ha h
  | right => exact List.IsPrefix.mem ha h

theorem keeps_refl (side : Side) (all : List α) : side.Keeps all all := by
  cases side with
  | left => exact List.suffix_refl all
  | right => exact List.prefix_refl all

theorem Keeps.eq_of_length_le {side : Side} {kept all : List α} (h : side.Keeps kept all)
    (hle : all.length ≤ kept.length) : kept = all := by
  cases side with
  | left => exact List.IsSuffix.eq_of_length_le h hle
  | right => exact List.IsPrefix.eq_of_length_le h hle

end Side

namespace Config

/-- A number of ids that the cap allows, if there is one. -/
def Admits (config : Config) (count : Nat) : Prop :=
  ∀ cap, config.cap = some cap → count ≤ cap

theorem not_admits_iff {config : Config} {count : Nat} :
    ¬ config.Admits count ↔ ∃ cap, config.cap = some cap ∧ cap < count := by
  simp only [Admits, not_forall, Nat.not_le, exists_prop]

end Config

namespace SpecialPolicy

/-- Special tokens in a text are all that a policy can object to. -/
theorem allowed_error {policy : SpecialPolicy} {text : List Char}
    {literals : List (String × Nat)} {e : Error}
    (h : (policy.allowed text literals).result = .error e) :
    ∃ names, e = .specialFound names := by
  cases policy with
  | all =>
    rw [result_allowed_all] at h
    cases h
  | none =>
    rw [result_allowed_none] at h
    cases h
  | refuse =>
    unfold SpecialPolicy.allowed at h
    dsimp only at h
    split at h
    · cases h
    · exact ⟨_, (Except.error.inj h).symm⟩
  | only chosen =>
    unfold SpecialPolicy.allowed at h
    cases h

end SpecialPolicy

namespace Tokenizer

variable {S : Type} {t : Tokenizer S} {config : Config}

/-! ## Truncation -/

theorem keeps_truncate (side : Side) (room : Option Nat) (tokens : List String) :
    side.Keeps (truncate side room tokens) tokens := by
  cases room with
  | none => exact Side.keeps_refl side tokens
  | some room =>
    cases side with
    | left => exact List.drop_suffix _ tokens
    | right => exact List.take_prefix room tokens

theorem length_truncate (side : Side) (room : Nat) (tokens : List String) :
    (truncate side (some room) tokens).length = min room tokens.length := by
  cases side with
  | left =>
    simp only [truncate, List.length_drop]
    omega
  | right => simp only [truncate, List.length_take]

/-- The room inside the wrapping is what the cap leaves. -/
def innerRoom (t : Tokenizer S) (config : Config) : Option Nat :=
  config.cap.map fun cap => cap - t.wrappingCount config

theorem room_of_admits (h : config.Admits (t.wrappingCount config)) :
    t.room config = .ok (t.innerRoom config) := by
  unfold room innerRoom
  cases hcap : config.cap with
  | none => rfl
  | some cap =>
    have hle := h cap hcap
    dsimp only
    rw [if_neg (by omega)]
    rfl

theorem room_of_lt {cap : Nat} (hcap : config.cap = some cap)
    (hlt : cap < t.wrappingCount config) :
    t.room config = .error (.config (.capTooSmall cap (t.wrappingCount config))) := by
  unfold room
  rw [hcap]
  dsimp only
  rw [if_pos hlt]

/-- What is kept has room beside the wrapping. -/
theorem admits_truncate (h : config.Admits (t.wrappingCount config)) (side : Side)
    (tokens : List String) : config.Admits
      ((truncate side (t.innerRoom config) tokens).length + t.wrappingCount config) := by
  intro cap hcap
  have hle := h cap hcap
  unfold innerRoom
  rw [hcap, Option.map_some, length_truncate]
  omega

/-- No longer part would have had room. -/
theorem longest_truncate {side : Side} {tokens other : List String}
    (hkeeps : side.Keeps other tokens)
    (hroom : config.Admits (other.length + t.wrappingCount config)) :
    other.length ≤ (truncate side (t.innerRoom config) tokens).length := by
  have hle := hkeeps.length_le
  unfold innerRoom
  cases hcap : config.cap with
  | none => exact hle
  | some cap =>
    -- What is kept fills the room, or is all there is.
    have hcount := hroom cap hcap
    rw [Option.map_some, length_truncate]
    omega

/-! ## Wrapping -/

/-- A special id is what its token is looked up as. -/
theorem lookup_tokenOf {id : Nat} (h : id ∈ t.vocabulary.specialIds) :
    t.vocabulary.lookup (t.tokenOf id) = id := by
  have hlt : id < t.vocabulary.tokens.keys.size := t.vocabulary.special_lt id h
  have htoken : t.vocabulary.token? id = some t.vocabulary.tokens.keys[id] :=
    Array.getElem?_eq_getElem hlt
  rw [tokenOf, htoken, Option.getD_some]
  exact Vocabulary.lookup_eq htoken

theorem map_lookup_tokenOf {ids : List Nat} (h : ∀ id ∈ ids, id ∈ t.vocabulary.specialIds) :
    (ids.map t.tokenOf).map t.vocabulary.lookup = ids := by
  rw [List.map_map]
  conv => rhs; rw [← List.map_id ids]
  apply List.map_congr_left
  intro id hid
  exact lookup_tokenOf (h id hid)

/-- What the ids of a text have to be, given its tokens and those that are kept of them. -/
structure Fits (t : Tokenizer S) (config : Config) (tokens kept : List String)
    (encoded : Encoded) : Prop where
  /-- The kept tokens are a part of the tokens from one end. -/
  keeps : config.truncationSide.Keeps kept tokens
  /-- No longer such part has room beside the wrapping. -/
  longest : ∀ other, config.truncationSide.Keeps other tokens →
    config.Admits (other.length + t.wrappingCount config) → other.length ≤ kept.length
  /-- What is not kept is counted. -/
  truncated_add : encoded.truncated + kept.length = tokens.length
  ids_eq : encoded.ids = t.startIds config ++ kept.map t.vocabulary.lookup ++ t.endIds config
  tokens_eq : encoded.tokens
    = (t.startIds config).map t.tokenOf ++ kept ++ (t.endIds config).map t.tokenOf
  /-- The mask marks the wrapping and nothing else. -/
  mask_eq : encoded.mask = List.replicate (t.startIds config).length 1
    ++ List.replicate kept.length 0 ++ List.replicate (t.endIds config).length 1
  count_mask : encoded.mask.count 1 = t.wrappingCount config
  length_tokens : encoded.tokens.length = encoded.ids.length
  length_mask : encoded.mask.length = encoded.ids.length
  admits : config.Admits encoded.ids.length
  /-- At every place the id is the one that the token is looked up as. -/
  map_lookup : encoded.tokens.map t.vocabulary.lookup = encoded.ids

/-- With room for all tokens, all are kept. -/
theorem Fits.kept_eq {tokens kept : List String} {encoded : Encoded}
    (h : t.Fits config tokens kept encoded)
    (hroom : config.Admits (tokens.length + t.wrappingCount config)) : kept = tokens :=
  h.keeps.eq_of_length_le (h.longest tokens (Side.keeps_refl _ tokens) hroom)

/-- The ids that the mask does not mark are those of kept tokens. -/
theorem Fits.exists_of_mask {tokens kept : List String} {encoded : Encoded}
    (h : t.Fits config tokens kept encoded) {i id : Nat} (hmask : encoded.mask[i]? = some 0)
    (hid : encoded.ids[i]? = some id) : ∃ token ∈ tokens, t.vocabulary.lookup token = id := by
  have hone : ∀ {count k : Nat}, (List.replicate count 1)[k]? ≠ some 0 := by
    intro count k hk
    have hmem := List.eq_of_mem_replicate (List.mem_of_getElem? hk)
    exact absurd hmem (by decide)
  have hkept : id ∈ kept.map t.vocabulary.lookup := by
    rw [h.mask_eq, List.append_assoc, List.getElem?_append, List.length_replicate] at hmask
    rw [h.ids_eq, List.append_assoc, List.getElem?_append] at hid
    split at hmask
    · exact absurd hmask hone
    · next hfront =>
      rw [if_neg hfront, List.getElem?_append, List.length_map] at hid
      rw [List.getElem?_append, List.length_replicate] at hmask
      split at hmask
      · next hinside =>
        rw [if_pos hinside] at hid
        exact List.mem_of_getElem? hid
      · exact absurd hmask hone
  rcases List.mem_map.1 hkept with ⟨token, hmem, hlookup⟩
  exact ⟨token, h.keeps.mem hmem, hlookup⟩

/-- The wrapping around what is kept is what the ids have to be. -/
theorem fits_wrap (h : config.Admits (t.wrappingCount config)) (tokens : List String) :
    let kept := truncate config.truncationSide (t.innerRoom config) tokens
    t.Fits config tokens kept (t.wrap config kept (tokens.length - kept.length)) := by
  intro kept
  have hkeeps : config.truncationSide.Keeps kept tokens := keeps_truncate _ _ tokens
  have hkept : kept.length ≤ tokens.length := hkeeps.length_le
  have hids : (t.wrap config kept (tokens.length - kept.length)).ids.length
      = kept.length + t.wrappingCount config := by
    simp only [wrap, List.length_append, List.length_map, wrappingCount]
    omega
  have hmask : (t.wrap config kept (tokens.length - kept.length)).mask
      = List.replicate (t.startIds config).length 1 ++ List.replicate kept.length 0
        ++ List.replicate (t.endIds config).length 1 := by
    simp only [wrap, List.map_const']
  refine
    { keeps := hkeeps
      longest := fun other hother hroom => longest_truncate hother hroom
      truncated_add := Nat.sub_add_cancel hkept
      ids_eq := rfl
      tokens_eq := rfl
      mask_eq := hmask
      count_mask := ?_
      length_tokens := ?_
      length_mask := ?_
      admits := ?_
      map_lookup := ?_ }
  · rw [hmask]
    simp [wrappingCount, List.count_replicate]
  · simp only [wrap, List.length_append, List.length_map]
  · simp only [wrap, List.length_append, List.length_map]
  · rw [hids]
    exact admits_truncate h _ tokens
  · -- The tokens around the text were found by their ids, and lead back to them.
    simp only [wrap, List.map_append, map_lookup_tokenOf fun _ => startIds_mem,
      map_lookup_tokenOf fun _ => endIds_mem]

/-! ## Encoding -/

/-- Cutting a text fails only for special tokens in it. -/
theorem split_error {policy : Option SpecialPolicy} {s : List Char} {e : Error}
    (h : (t.split policy s).result = .error e) : ∃ names, e = .specialFound names := by
  unfold split at h
  cases hpolicy : policy.or t.policy with
  | none =>
    rw [hpolicy] at h
    cases h
  | some policy =>
    rw [hpolicy, Outcome.result_bind] at h
    cases hallowed : (policy.allowed s t.vocabulary.literals).result with
    | error other =>
      rw [hallowed] at h
      rw [← Except.error.inj h]
      exact SpecialPolicy.allowed_error hallowed
    | ok allowed =>
      rw [hallowed] at h
      dsimp only [Except.bind] at h
      split at h
      · cases h
      · cases h

variable [Score S] (t) (text : String) (options : Option Config) (policy : Option SpecialPolicy)

/-- Without room for the wrapping, nothing but the cap is looked at. -/
theorem encode_of_lt {cap : Nat} (hcap : (options.getD t.config).cap = some cap)
    (hlt : cap < t.numSpecial options) :
    t.encode text options policy
      = Outcome.fail (.config (.capTooSmall cap (t.numSpecial options))) := by
  have hroom := room_of_lt hcap hlt
  rw [encode, encodeWith, hroom]
  rfl

/-- With room for the wrapping, encoding wraps what is kept of the tokens. -/
theorem result_encode_of_admits (h : (options.getD t.config).Admits (t.numSpecial options)) :
    (t.encode text options policy).result
      = (t.tokenize text options policy).result.map fun tokens =>
        let kept := truncate (options.getD t.config).truncationSide
          (t.innerRoom (options.getD t.config)) tokens
        t.wrap (options.getD t.config) kept (tokens.length - kept.length) := by
  rw [result_encode_room, room_of_admits h]
  rfl

/-- Encoding fails for its options exactly when the cap has no room for the wrapping. -/
theorem exists_config_iff : (∃ fault, (t.encode text options policy).result
      = .error (.config fault)) ↔
    ∃ cap, (options.getD t.config).cap = some cap ∧ cap < t.numSpecial options := by
  constructor
  · rintro ⟨fault, hfault⟩
    rw [← Config.not_admits_iff]
    intro hroom
    rw [result_encode_of_admits t text options policy hroom, tokenize, tokenizeWith,
      Outcome.result_bind] at hfault
    cases hsplit : (t.split policy text.toList).result with
    | error e =>
      -- The error is about special tokens in the text, and not about options.
      rcases split_error hsplit with ⟨names, rfl⟩
      rw [hsplit] at hfault
      cases hfault
    | ok parts =>
      rw [hsplit] at hfault
      cases hfault
  · rintro ⟨cap, hcap, hlt⟩
    exact ⟨_, congrArg Outcome.result (encode_of_lt t text options policy hcap hlt)⟩

/-- What encoding comes to is the wrapping around what is kept of the tokens. -/
theorem exists_fits {encoded : Encoded}
    (h : (t.encode text options policy).result = .ok encoded) :
    ∃ tokens kept, (t.tokenize text options policy).result = .ok tokens ∧
      t.Fits (options.getD t.config) tokens kept encoded := by
  by_cases hroom : (options.getD t.config).Admits (t.numSpecial options)
  · rw [result_encode_of_admits t text options policy hroom] at h
    cases htokens : (t.tokenize text options policy).result with
    | error e =>
      rw [htokens] at h
      cases h
    | ok tokens =>
      rw [htokens] at h
      rw [← Except.ok.inj h]
      exact ⟨tokens, _, rfl, fits_wrap hroom tokens⟩
  · rcases Config.not_admits_iff.1 hroom with ⟨cap, hcap, hlt⟩
    rw [encode_of_lt t text options policy hcap hlt] at h
    cases h

/-- Encoding fails for its options exactly when the cap has no room for the wrapping, and then
    before anything else is looked at. Otherwise it fails where tokenizing does, and what it
    comes to is the wrapping around as many of the tokens as there is room for. -/
theorem encode_fits :
    ((∃ fault, (t.encode text options policy).result = .error (.config fault)) ↔
      ∃ cap, (options.getD t.config).cap = some cap ∧ cap < t.numSpecial options) ∧
    (∀ cap, (options.getD t.config).cap = some cap → cap < t.numSpecial options →
      t.encode text options policy
        = Outcome.fail (.config (.capTooSmall cap (t.numSpecial options)))) ∧
    (∀ encoded, (t.encode text options policy).result = .ok encoded →
      ∃ tokens kept, (t.tokenize text options policy).result = .ok tokens ∧
        t.Fits (options.getD t.config) tokens kept encoded) ∧
    ((options.getD t.config).Admits (t.numSpecial options) →
      (∀ e, (t.tokenize text options policy).result = .error e →
        (t.encode text options policy).result = .error e) ∧
      ∀ tokens, (t.tokenize text options policy).result = .ok tokens →
        ∃ encoded, (t.encode text options policy).result = .ok encoded) := by
  refine ⟨exists_config_iff t text options policy, ?_, ?_, ?_⟩
  · intro cap hcap hlt
    exact encode_of_lt t text options policy hcap hlt
  · intro encoded h
    exact exists_fits t text options policy h
  · intro hroom
    rw [result_encode_of_admits t text options policy hroom]
    refine ⟨?_, ?_⟩
    · intro e he
      rw [he]
      rfl
    · intro tokens htokens
      rw [htokens]
      exact ⟨_, rfl⟩

/-- A tokenizer with an unknown token and tokens around a text, and with nothing but special
    tokens, so that a text made of these has just them. -/
theorem exists_bounded (config : Config) : ∃ t : Tokenizer Float, t.config = config ∧
    t.vocabulary.tokens.toList = ["<unk>", "<bos>", "<eos>"] ∧
    (∀ options : Config, options.addSpecial = true →
      t.startIds options = [1] ∧ t.endIds options = [2]) ∧
    ∀ (text : String) (options : Option Config) (tokens : List String),
      Text.cutOnto ["<unk>".toList, "<bos>".toList, "<eos>".toList] false [] [] 0 text.toList
        = tokens.map (fun token => .literal token.toList) →
      (t.tokenize text options (some .all)).result = .ok tokens := by
  have htokens : ["<unk>", "<bos>", "<eos>"].Nodup := by decide
  rcases Vocabulary.exists_ofBounds htokens (by decide) with ⟨v, hv, hspecial, hids⟩
  have hliterals := Vocabulary.literals_of_bounds hids hv
  have hlongest : Text.longestFirst (v.literals.map fun literal => literal.1.toList)
      = ["<unk>".toList, "<bos>".toList, "<eos>".toList] := by
    rw [hliterals]
    exact List.mergeSort_of_pairwise (by decide)
  refine ⟨⟨v, config, true, true, none, .bytePair
    { rules := ⟨.empty⟩, pattern := SplitPattern.Named.gpt2.pattern }⟩, rfl, hv, ?_, ?_⟩
  · exact ends_of_bounds hspecial rfl rfl
  · intro text options tokens hcut
    have hnil : (v.literals.map fun literal => literal.1.toList).contains [] = false := by
      rw [hliterals]
      decide
    rw [tokenize, tokenizeWith, Outcome.result_bind, split_all, Text.cut, hlongest, hnil, hcut]
    dsimp only [Except.bind]
    rw [Outcome.result_pure, List.flatMap_map]
    simp only [segmentTokens, String.ofList_toList, List.flatMap_singleton']

/-- Three special tokens under a cap of four, cut off on the left: the two around the text leave
    room for two more, so the first one in the text is dropped. -/
theorem encode_fits_of_left : ∃ t : Tokenizer Float,
    t.vocabulary.tokens.toList = ["<unk>", "<bos>", "<eos>"] ∧
    t.config.cap = some 4 ∧ t.config.truncationSide = .left ∧ t.numSpecial = 2 ∧
    ∃ encoded, (t.encode "<unk><eos><bos>" none (some .all)).result = .ok encoded ∧
      encoded.ids = [1, 2, 1, 2] ∧ encoded.truncated = 1 := by
  have hcap : ∀ n : Nat, some 4 = some n → 0 < n := by
    intro n h
    rw [← Option.some.inj h]
    decide
  let config : Config :=
    { Config.uncapped true with
      cap := some 4
      truncationSide := .left
      cap_pos := hcap
      capped := Config.capped_longest }
  rcases exists_bounded config with ⟨t, hconfig, hv, hbounds, htokenize⟩
  rcases hbounds t.config (by rw [hconfig]; rfl) with ⟨hstart, hend⟩
  have htokens := htokenize "<unk><eos><bos>" none ["<unk>", "<eos>", "<bos>"]
    (by decide +kernel)
  have hcount : t.wrappingCount t.config = 2 := by
    rw [wrappingCount, hstart, hend]
    rfl
  have hadmits : ∀ count ≤ 4, t.config.Admits count := by
    intro count hle cap h
    rw [hconfig] at h
    rwa [← Option.some.inj h]
  rcases encode_fits t "<unk><eos><bos>" none (some .all) with ⟨_, _, hfits, hsucceeds⟩
  rcases (hsucceeds (hadmits _ (by rw [numSpecial, Option.getD_none, hcount]; decide))).2 _
    htokens with ⟨encoded, hencoded⟩
  rcases hfits encoded hencoded with ⟨tokens, kept, hsame, hfit⟩
  rw [htokens, Except.ok.injEq] at hsame
  subst hsame
  rw [Option.getD_none] at hfit
  have hids : encoded.ids = [1] ++ kept.map t.vocabulary.lookup ++ [2] := by
    rw [hfit.ids_eq, hstart, hend]
  have hside : t.config.truncationSide = .left := by rw [hconfig]
  have hkeeps : kept <:+ ["<unk>", "<eos>", "<bos>"] := by
    have h := hfit.keeps
    rwa [hside] at h
  -- Two tokens have room and three have not, so the last two are kept.
  have hleast : 2 ≤ kept.length := by
    refine hfit.longest ["<eos>", "<bos>"] ?_ (hadmits _ ?_)
    · rw [hside]
      exact ⟨["<unk>"], rfl⟩
    · rw [hcount]
      decide
  have hlength : kept.length = 2 := by
    have hmost : encoded.ids.length ≤ 4 := hfit.admits 4 (by rw [hconfig])
    rw [hids, List.length_append, List.length_append, List.length_map] at hmost
    simp only [List.length_singleton] at hmost
    omega
  have hkept : kept = ["<eos>", "<bos>"] := by
    rw [List.suffix_iff_eq_drop.1 hkeeps, hlength]
    rfl
  have htruncated := hfit.truncated_add
  simp only [hlength, List.length_cons, List.length_nil] at htruncated
  refine ⟨t, hv, by rw [hconfig], hside, hcount, encoded, hencoded, ?_, by omega⟩
  have heos : t.vocabulary.lookup "<eos>" = 2 := Vocabulary.lookup_of_toList hv rfl
  have hbos : t.vocabulary.lookup "<bos>" = 1 := Vocabulary.lookup_of_toList hv rfl
  rw [hids, hkept, List.map_cons, List.map_singleton, heos, hbos]
  rfl

end Tokenizer

end Subword
