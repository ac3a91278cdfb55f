import Subword.Proofs.Descriptor.Ends
import Subword.Proofs.Directory.Loading

/-!
# What a document states about special tokens

A document that is loaded as a descriptor is for a family of models, has tokens,
names some of them for slots, and may give an id to the unknown token. Each of these is
stated here by the nodes of the document: the family by its name or by the form of the
model, the tokens by the entries of the table or of the list and by those that are
added, the names by the fields in which they stand, and the names for the start
and the end by what the post-processor puts around a sequence.

## Main definitions

* `Json.IsFor`: The family that a document is for.
* `Json.HasToken`: The tokens of a document.
* `Json.Names`: The tokens that a document names for slots.
* `Sources`, `Json.States`: What a document states.

## Theorems

* `Json.isFor_iff`: The family that a document is for is that of its descriptor.
* `Json.names_iff`: The tokens that it names are those that its descriptor names.
* `Descriptor.mem_keys_table`: Its tokens are those in the table of its descriptor.
* `Json.States.agree`: A document states one thing.
-/

namespace Subword

/-- What the files of a directory state about the special tokens of its tokenizer. -/
structure Sources where
  family : Family
  /-- The tokens that a descriptor names. -/
  named : Slot → Option String
  /-- The tokens of the vocabulary. -/
  tokens : List String
  /-- The id that a descriptor gives to the unknown token. -/
  unknownId : Option Int

/-- The name of a family in documents. -/
def Family.modelType : Family → String
  | wordPiece => "WordPiece"
  | bytePair => "BPE"
  | unigram => "Unigram"

theorem Family.modelType_injective {family other : Family}
    (h : family.modelType = other.modelType) : family = other := by
  cases family <;> cases other <;> first | rfl | exact absurd h (by decide)

namespace Json

/-- An item that adds a token with an id. -/
def Adds (item : Json) (token : String) (id : Int) : Prop :=
  item.get? "id" = some (.int id) ∧ ∃ content, item.get? "content" = some content ∧
    content.display = token

/-- The items of a document that add tokens. -/
def addedTokens (document : Json) : List Json :=
  itemsIfAny (document.get "added_tokens")

/-- The table or the list of tokens that the model of a document has. -/
def modelTokens (document : Json) : Json := (document.get "model").get "vocab"

/-- The family that a document is for: the one that its model names or, if it names none, the one
    to which a model of its form belongs. -/
inductive IsFor (document : Json) : Family → Prop
  | named {family : Family} (type : (document.get "model").get "type" = .str family.modelType) :
      IsFor document family
  | merges (type : (document.get "model").get "type" = .null)
      (merges : ((document.get "model").get? "merges").isSome = true) : IsFor document .bytePair
  | list {items : List Json} (type : (document.get "model").get "type" = .null)
      (merges : ((document.get "model").get? "merges").isSome = false)
      (list : document.modelTokens = .arr items) : IsFor document .unigram
  | table (type : (document.get "model").get "type" = .null)
      (merges : ((document.get "model").get? "merges").isSome = false)
      (table : ∀ items, document.modelTokens ≠ .arr items) : IsFor document .wordPiece

/-- A token of a document: it is in the table or in the list of the model, or it is added. -/
inductive HasToken (document : Json) (token : String) : Prop
  | entry {entries : List (String × Json)} {value : Json}
      (table : document.modelTokens = .obj entries) (mem : (token, value) ∈ entries) :
      HasToken document token
  | piece {items : List Json} {value : Json} (list : document.modelTokens = .arr items)
      (mem : .arr [.str token, value] ∈ items) : HasToken document token
  | added {item : Json} {id : Int} (mem : item ∈ document.addedTokens)
      (adds : item.Adds token id) : HasToken document token

/-- A token that a document names for a slot. -/
inductive Names (document : Json) : Slot → String → Prop
  | unk {token : String} (model : (document.get "model").get "unk_token" = .str token) :
      Names document .unk token
  | pad {token : String} (padding : (document.get "padding").get "pad_token" = .str token) :
      Names document .pad token
  | bos {token : String} {finish : Json}
      (around : document.PutsAround (some ⟨.str token, finish⟩)) : Names document .bos token
  | eos {token : String} {start : Json}
      (around : document.PutsAround (some ⟨start, .str token⟩)) : Names document .eos token

/-- What a document states about special tokens. Only a unigram model can give an id to the unknown
    token. -/
structure States (document : Json) (sources : Sources) : Prop where
  family : document.IsFor sources.family
  named : ∀ slot token, sources.named slot = some token ↔ document.Names slot token
  tokens : ∀ token, token ∈ sources.tokens ↔ document.HasToken token
  unknownId : ∀ id, sources.unknownId = some id ↔
    sources.family = .unigram ∧ (document.get "model").get "unk_id" = .int id

/-- A text value is what its text is read from. -/
theorem str?_eq_some_iff {value : Json} {text : String} :
    value.str? = some text ↔ value = .str text := by
  cases value <;> simp only [str?, reduceCtorEq, Option.some.injEq, Json.str.injEq]

theorem int?_eq_some_iff {value : Json} {n : Int} : value.int? = some n ↔ value = .int n := by
  cases value <;> simp only [int?, reduceCtorEq, Option.some.injEq, Json.int.injEq]

end Json

namespace Descriptor

variable {d : Descriptor} {path : FilePath} {hints : Hints} {t : Tokenizer Float}
  {family : Family} {document : Json} {place : Option String}

/-! ## Families -/

theorem family?_eq_some_iff : d.family? = some family ↔ d.modelType = .str family.modelType := by
  constructor
  · intro h
    unfold family? at h
    cases hvalue : d.modelType with
    | str name =>
      rw [hvalue] at h
      dsimp only [Json.str?, Option.getD_some] at h
      split at h
      · cases h
        rfl
      · cases h
        rfl
      · cases h
        rfl
      · cases h
    | _ =>
      rw [hvalue] at h
      cases h
  · intro h
    rw [family?, h]
    cases family <;> rfl

theorem modelTypeOf_of_null {model : Json} (h : model.get "type" = .null) :
    modelTypeOf model = .str (inferredType model) := by
  rw [modelTypeOf, h]

theorem modelTypeOf_of_ne_null {model : Json} (h : model.get "type" ≠ .null) :
    modelTypeOf model = model.get "type" := by
  unfold modelTypeOf
  split
  · next hnull => exact absurd hnull h
  · rfl

theorem inferredType_of_merges {model : Json} (h : (model.get? "merges").isSome = true) :
    inferredType model = "BPE" := if_pos h

theorem inferredType_of_list {model : Json} {items : List Json}
    (hmerges : (model.get? "merges").isSome = false) (hlist : model.get "vocab" = .arr items) :
    inferredType model = "Unigram" := by
  rw [inferredType, hmerges, if_neg Bool.false_ne_true, hlist]

theorem inferredType_of_table {model : Json} (hmerges : (model.get? "merges").isSome = false)
    (htable : ∀ items, model.get "vocab" ≠ .arr items) : inferredType model = "WordPiece" := by
  rw [inferredType, hmerges, if_neg Bool.false_ne_true]
  split
  · next items hvocab => exact absurd hvocab (htable items)
  · rfl

end Descriptor

/-- The family that a document is for is that of its model, whether it is named or not. -/
theorem Json.isFor_iff {document : Json} {family : Family} : document.IsFor family ↔
    modelTypeOf (document.get "model") = .str family.modelType := by
  constructor
  · rintro (htype | ⟨htype, hmerges⟩ | ⟨htype, hmerges, hlist⟩ | ⟨htype, hmerges, htable⟩)
    · rw [Descriptor.modelTypeOf_of_ne_null (by rw [htype]; nofun), htype]
    · rw [Descriptor.modelTypeOf_of_null htype, Descriptor.inferredType_of_merges hmerges]
      rfl
    · rw [Descriptor.modelTypeOf_of_null htype, Descriptor.inferredType_of_list hmerges hlist]
      rfl
    · rw [Descriptor.modelTypeOf_of_null htype, Descriptor.inferredType_of_table hmerges htable]
      rfl
  · intro h
    -- Without a name the form of the model decides, and the three forms exclude each other.
    by_cases htype : (document.get "model").get "type" = .null
    · rw [Descriptor.modelTypeOf_of_null htype, Json.str.injEq] at h
      cases hmerges : ((document.get "model").get? "merges").isSome with
      | true =>
        rw [Descriptor.inferredType_of_merges hmerges] at h
        rcases (Family.modelType_injective h : Family.bytePair = family) with rfl
        exact .merges htype hmerges
      | false =>
        by_cases hlist : ∃ items, document.modelTokens = .arr items
        · rcases hlist with ⟨items, hlist⟩
          rw [Descriptor.inferredType_of_list hmerges hlist] at h
          rcases (Family.modelType_injective h : Family.unigram = family) with rfl
          exact .list htype hmerges hlist
        · have htable : ∀ items, document.modelTokens ≠ .arr items :=
            fun items hitems => hlist ⟨items, hitems⟩
          rw [Descriptor.inferredType_of_table hmerges htable] at h
          rcases (Family.modelType_injective h : Family.wordPiece = family) with rfl
          exact .table htype hmerges htable
    · rw [Descriptor.modelTypeOf_of_ne_null htype] at h
      exact .named h

/-! ## Names -/

/-- The tokens that a document names for slots are those that its descriptor names. -/
theorem Json.names_iff {document : Json} {added : List AddedToken} {components : List Json}
    (h : Component.flatten (document.get "post_processor") = .ok components) {slot : Slot}
    {token : String} : document.Names slot token ↔
      (Descriptor.assemble document (document.get "model") added).named slot = some token := by
  have hwrapping : (Descriptor.assemble document (document.get "model") added).wrapping
      = Wrapping.ofComponents? components := by
    rw [← Component.leaves_of_flatten h]
    rfl
  have haround : ∀ {wrapping : Wrapping}, document.PutsAround (some wrapping) ↔
      (Descriptor.assemble document (document.get "model") added).wrapping = some wrapping := by
    intro wrapping
    rw [hwrapping]
    exact Json.putsAround_iff h
  constructor
  · rintro (hmodel | hpadding | hstart | hfinish)
    · exact Json.str?_eq_some_iff.2 hmodel
    · exact Json.str?_eq_some_iff.2 hpadding
    · rw [Descriptor.named, haround.1 hstart]
      rfl
    · rw [Descriptor.named, haround.1 hfinish]
      rfl
  · intro hnamed
    cases slot with
    | unk => exact .unk (Json.str?_eq_some_iff.1 hnamed)
    | pad => exact .pad (Json.str?_eq_some_iff.1 hnamed)
    | bos =>
      rcases Option.bind_eq_some_iff.1 hnamed with ⟨⟨start, finish⟩, hfound, hstart⟩
      rcases Json.str?_eq_some_iff.1 hstart with rfl
      exact .bos (haround.2 hfound)
    | eos =>
      rcases Option.bind_eq_some_iff.1 hnamed with ⟨⟨start, finish⟩, hfound, hfinish⟩
      rcases Json.str?_eq_some_iff.1 hfinish with rfl
      exact .eos (haround.2 hfound)
    | mask => cases hnamed

/-! ## Tokens -/

namespace Descriptor

variable {d : Descriptor} {family : Family} {document : Json} {place : Option String}

/-- The table of ids that the vocabulary of a descriptor is made of. The pieces of a unigram model
    have their positions as ids in it. -/
def table (d : Descriptor) : Family → Except LoadFault (List (String × Json))
  | .unigram => d.pieces >>= fun pieces => withAdded (pieceIds pieces) d.added
  | _ => d.tokenIds

/-- The table of a descriptor has the entries of its model and the added tokens. -/
theorem table_eq_ok {ids : List (String × Json)} (h : d.table family = .ok ids) :
    ∃ entries, withAdded entries d.added = .ok ids ∧
      (d.model.get "vocab" = .obj entries ∨ ∃ items pieces, d.model.get "vocab" = .arr items ∧
        List.Forall₂ Scores items pieces ∧ entries = pieceIds pieces) := by
  have htable : ∀ {ids}, d.tokenIds = .ok ids → ∃ entries, withAdded entries d.added = .ok ids ∧
      d.model.get "vocab" = .obj entries := by
    intro ids hids
    unfold tokenIds at hids
    split at hids
    · next entries hvocab => exact ⟨entries, hids, hvocab⟩
    · cases hids
  cases family with
  | unigram =>
    rcases bind_eq_ok_iff.1 h with ⟨pieces, hpieces, hids⟩
    rcases exists_items_of_pieces hpieces with ⟨items, hvocab, hscored⟩
    exact ⟨_, hids, Or.inr ⟨items, pieces, hvocab, hscored, rfl⟩⟩
  | wordPiece =>
    rcases htable h with ⟨entries, hids, hvocab⟩
    exact ⟨entries, hids, Or.inl hvocab⟩
  | bytePair =>
    rcases htable h with ⟨entries, hids, hvocab⟩
    exact ⟨entries, hids, Or.inl hvocab⟩

/-- A token stands in the entries of the model when it is in its table or in its list. -/
theorem mem_entries_iff {entries : List (String × Json)}
    (h : document.modelTokens = .obj entries ∨ ∃ items pieces, document.modelTokens = .arr items ∧
      List.Forall₂ Scores items pieces ∧ entries = pieceIds pieces) (token : String) :
    token ∈ entries.map Prod.fst ↔
      (∃ table value, document.modelTokens = .obj table ∧ (token, value) ∈ table) ∨
      ∃ items value, document.modelTokens = .arr items ∧ .arr [.str token, value] ∈ items := by
  rcases h with hvocab | ⟨items, pieces, hvocab, hscored, rfl⟩
  · constructor
    · intro hmem
      rcases List.mem_map.1 hmem with ⟨⟨_, value⟩, hentry, rfl⟩
      exact Or.inl ⟨entries, value, hvocab, hentry⟩
    · rintro (⟨table, value, htable, hmem⟩ | ⟨items, value, hlist, -⟩)
      · rcases Json.obj.inj (hvocab.symm.trans htable)
        exact List.mem_map.2 ⟨_, hmem, rfl⟩
      · cases hvocab.symm.trans hlist
  · rw [pieceIds_eq, Vocabulary.map_fst_numbered]
    constructor
    · intro hmem
      rcases List.mem_map.1 hmem with ⟨piece, hpiece, rfl⟩
      rcases exists_mem_beside hscored.flip hpiece with ⟨entry, hentry, value, rfl, _⟩
      exact Or.inr ⟨items, value, hvocab, hentry⟩
    · rintro (⟨table, value, htable, -⟩ | ⟨list, value, hlist, hmem⟩)
      · cases hvocab.symm.trans htable
      · rcases Json.arr.inj (hvocab.symm.trans hlist)
        rcases exists_mem_beside hscored hmem with ⟨piece, hpiece, score, hentry, _⟩
        cases hentry
        exact List.mem_map.2 ⟨piece, hpiece, rfl⟩

/-- A token is added when an item adds it with some id. -/
theorem exists_added_iff {added : List AddedToken}
    (h : List.Forall₂ (fun item a => AddedToken.ofJson item = .ok a) document.addedTokens added)
    (token : String) : (∃ a ∈ added, a.text = token) ↔
      ∃ item ∈ document.addedTokens, ∃ id, item.Adds token id := by
  constructor
  · rintro ⟨a, ha, rfl⟩
    rcases exists_mem_beside h.flip ha with ⟨item, hmem, hitem⟩
    rcases AddedToken.ofJson_eq_ok_iff.1 hitem with ⟨hid, hcontent, _⟩
    exact ⟨item, hmem, a.id, hid, a.content, hcontent, rfl⟩
  · rintro ⟨item, hmem, id, -, content, hcontent, rfl⟩
    rcases exists_mem_beside h hmem with ⟨a, ha, hitem⟩
    have hsame := (AddedToken.ofJson_eq_ok_iff.1 hitem).2.1
    rcases Option.some.inj (hcontent.symm.trans hsame) with rfl
    exact ⟨a, ha, rfl⟩

/-- The tokens of a document are those in the table of its descriptor. -/
theorem mem_keys_table {added : List AddedToken} {ids : List (String × Json)}
    (hadded : List.Forall₂ (fun item a => AddedToken.ofJson item = .ok a)
      document.addedTokens added)
    (h : (assemble document (document.get "model") added).table family = .ok ids)
    (token : String) : token ∈ ids.map Prod.fst ↔ document.HasToken token := by
  rcases table_eq_ok h with ⟨entries, hids, hentries⟩
  rw [mem_keys_withAdded hids, mem_entries_iff hentries]
  show _ ∨ (∃ a ∈ added, a.text = token) ↔ _
  rw [exists_added_iff hadded]
  constructor
  · rintro ((⟨table, value, htable, hmem⟩ | ⟨items, value, hlist, hmem⟩) | ⟨item, hmem, id, hadds⟩)
    · exact .entry htable hmem
    · exact .piece hlist hmem
    · exact .added hmem hadds
  · rintro (⟨htable, hmem⟩ | ⟨hlist, hmem⟩ | ⟨hmem, hadds⟩)
    · exact Or.inl (Or.inl ⟨_, _, htable, hmem⟩)
    · exact Or.inl (Or.inr ⟨_, _, hlist, hmem⟩)
    · exact Or.inr ⟨_, hmem, _, hadds⟩

end Descriptor

/-! ## What is stated -/

/-- The id that a descriptor states for the unknown token, which only one of a unigram model
    does. -/
def Descriptor.unknownId (d : Descriptor) : Family → Option Int
  | .unigram => (d.model.get "unk_id").int?
  | _ => none

theorem Descriptor.unknownId_eq_some_iff {d : Descriptor} {family : Family} {id : Int} :
    d.unknownId family = some id ↔ family = .unigram ∧ d.model.get "unk_id" = .int id := by
  cases family <;> simp [unknownId, Json.int?_eq_some_iff]

/-- A document states what its descriptor has, and its tokens are those in the table of the
    descriptor. -/
theorem Json.states_of_descriptor {document : Json} {d : Descriptor} {place : Option String}
    {family : Family} {ids : List (String × Json)} {tokens : List String}
    (hd : (Descriptor.ofJson document place).result = .ok d) (hfamily : d.family? = some family)
    (htable : d.table family = .ok ids)
    (htokens : ∀ token, token ∈ tokens ↔ token ∈ ids.map Prod.fst) :
    document.States ⟨family, d.named, tokens, d.unknownId family⟩ := by
  rcases Descriptor.ofJson_eq_ok hd with ⟨added, hadded, hflatten, rfl⟩
  rcases hflatten "post_processor" (by decide) with ⟨components, hcomponents⟩
  refine ⟨Json.isFor_iff.2 (Descriptor.family?_eq_some_iff.1 hfamily), ?_, ?_, ?_⟩
  · exact fun slot token => (Json.names_iff hcomponents).symm
  · exact fun token => (htokens token).trans (Descriptor.mem_keys_table hadded htable token)
  · exact fun id => Descriptor.unknownId_eq_some_iff

/-- What two sources have in common that state the same. -/
structure Sources.Agree (sources other : Sources) : Prop where
  family : sources.family = other.family
  named : sources.named = other.named
  tokens : ∀ token, token ∈ sources.tokens ↔ token ∈ other.tokens
  unknownId : sources.unknownId = other.unknownId

/-- A document states one thing. -/
theorem Json.States.agree {document : Json} {sources other : Sources} (h : document.States sources)
    (hother : document.States other) : sources.Agree other := by
  have htype := (Json.isFor_iff.1 h.family).symm.trans (Json.isFor_iff.1 hother.family)
  have hfamily : sources.family = other.family := Family.modelType_injective (Json.str.inj htype)
  refine ⟨hfamily, ?_, fun token => (h.tokens token).trans (hother.tokens token).symm, ?_⟩
  · funext slot
    exact Option.ext fun token => (h.named slot token).trans (hother.named slot token).symm
  · exact Option.ext fun id => (h.unknownId id).trans (hfamily ▸ (hother.unknownId id).symm)

end Subword
