import Subword.Directory.Loading
import Subword.Proofs.Descriptor.Table

/-!
# What a descriptor is loaded through

A descriptor that is loaded has gone through all steps on the way, and what each
of them gave is there to be spoken of: a table of ids, the same with added
tokens, a vocabulary made of it. This is said once for the three families, which
differ in where the table comes from. For two of them the document has it, for
the third it numbers the pieces of a list, which have scores as well.

The wishes for slots are the same for all families but for the unknown token,
which a document can ask for by id.

## Main definitions

* `Descriptor.States`: The table of ids that a descriptor states for a tokenizer.
* `Descriptor.Loaded`: What is there when a descriptor has been loaded.

## Theorems

* `Descriptor.ofJson_eq_ok`: What a document has to have to be a descriptor.
* `Descriptor.wishFor_wishes`: What is tried for a slot.
* `Descriptor.result_loadBytePair_eq`: The pattern of a byte pair descriptor is what comes last.
* `Descriptor.loadBytePair_eq_ok`: What a byte pair descriptor is loaded through.
* `Descriptor.load_loaded`: A descriptor is loaded through its table and its vocabulary.
* `Descriptor.exists_loadUnigram`: The number of scores is never what loading fails for.
* `Tokenizer.load_eq_ok_layout`: The files of a directory are loaded with the hints beside them.
* `Tokenizer.load_eq_ok`: The document of a directory is loaded in this way.
-/

namespace Subword

theorem Outcome.result_ofFile_eq_ok_iff {α : Type} {path : FilePath} {x : Except LoadFault α}
    {a : α} : (Outcome.ofFile path x).result = .ok a ↔ x = .ok a := by
  cases x with
  | error fault =>
    constructor
    · intro h
      cases h
    · intro h
      cases h
  | ok b =>
    rw [Outcome.ofFile, Outcome.result_pure]
    rw [Except.ok.injEq, Except.ok.injEq]

namespace AddedToken

/-- What an item has to have to be an added token. -/
theorem ofJson_eq_ok_iff {item : Json} {a : AddedToken} :
    ofJson item = .ok a ↔ item.get? "id" = some (.int a.id) ∧
      item.get? "content" = some a.content ∧ a.special = (item.get "special").holds := by
  unfold ofJson
  constructor
  · intro h
    split at h
    · next hid hcontent =>
      rw [← Except.ok.inj h]
      exact ⟨hid, hcontent, rfl⟩
    · cases h
    · cases h
  · rintro ⟨hid, hcontent, hspecial⟩
    rw [hid, hcontent, ← hspecial]

end AddedToken

namespace Descriptor

variable {d : Descriptor} {path : FilePath} {hints : Hints} {wishes : Wishes} {config : Config}
  {t : Tokenizer Float}

theorem exists_flatten_of_flattenFault? {document : Json} {key : String}
    (h : flattenFault? document key = none) :
    ∃ components, Component.flatten (document.get key) = .ok components := by
  unfold flattenFault? at h
  split at h
  · next components hflatten => exact ⟨components, hflatten⟩
  · cases h

/-- What a document has to have to be a descriptor. -/
theorem ofJson_eq_ok {document : Json} {place : Option String}
    (h : (ofJson document place).result = .ok d) :
    ∃ added, List.Forall₂ (fun item a => AddedToken.ofJson item = .ok a)
        (itemsIfAny (document.get "added_tokens")) added ∧
      (∀ key ∈ nodeFields, ∃ components, Component.flatten (document.get key) = .ok components) ∧
      d = assemble document (document.get "model") added := by
  unfold ofJson at h
  split at h
  · cases h
  dsimp only at h
  split at h
  · cases h
  split at h
  · cases h
  next added hadded =>
  split at h
  · cases h
  next hnormalizer =>
  split at h
  · cases h
  next hothers =>
  obtain ⟨hsplitter, hprocessor⟩ := Option.or_eq_none_iff.1 hothers
  refine ⟨added, mapM_eq_ok_iff.1 hadded, ?_, (Except.ok.inj h).symm⟩
  intro key hkey
  simp only [nodeFields, List.mem_cons, List.not_mem_nil, or_false] at hkey
  obtain rfl | rfl | rfl := hkey
  · exact exists_flatten_of_flattenFault? hnormalizer
  · exact exists_flatten_of_flattenFault? hsplitter
  · exact exists_flatten_of_flattenFault? hprocessor

/-! ## Wishes -/

/-- What is tried for a slot: the candidates that hints and the descriptor name. -/
theorem wishFor_wishes (hints : Hints) (family : Family) (named : Slot → Option String)
    (slot : Slot) : Vocabulary.wishFor (hints.wishes family named) slot
      = some (.oneOf (hints.candidates family named slot)) := by
  unfold Vocabulary.wishFor Hints.wishes
  cases slot <;> simp [Slot.all, Slot.name, List.lookup_cons]

/-- Stating the id of the unknown token leaves the wishes for other slots alone. -/
theorem wishFor_unigramWishes (hints : Hints) (family : Family) {slot : Slot}
    (h : slot ≠ .unk) : Vocabulary.wishFor (d.unigramWishes (hints.wishes family d.named)) slot
      = some (.oneOf (hints.candidates family d.named slot)) := by
  unfold unigramWishes
  split
  · unfold Vocabulary.wishFor withUnknownId Hints.wishes
    cases slot with
    | unk => exact absurd rfl h
    | _ => simp [Slot.all, Slot.name, List.lookup_cons]
  · exact wishFor_wishes hints family d.named slot

theorem known_wishes (hints : Hints) (family : Family) (named : Slot → Option String) :
    ∀ wish ∈ hints.wishes family named, ∃ slot : Slot, slot.name = wish.1 := by
  intro wish hwish
  rcases List.mem_map.1 hwish with ⟨slot, _, rfl⟩
  exact ⟨slot, rfl⟩

/-- A table of ids is acceptable when a candidate for the unknown token is in it. -/
theorem acceptable_of_table {ids : List (String × Json)} {family : Family}
    {named : Slot → Option String} {extra : List Slot.Wish} (hnodup : (ids.map Prod.fst).Nodup)
    (hnumbers : Vocabulary.Numbers ids) (hextra : ∀ asked ∈ extra, asked.InRange ids.length)
    (hunk : ∃ token ∈ hints.candidates family named .unk, token ∈ ids.map Prod.fst) :
    Vocabulary.Acceptable ids (hints.wishes family named) extra where
  nodup := hnodup
  numbers := hnumbers
  known := known_wishes hints family named
  slots_inRange := by
    intro slot asked hasked
    rw [wishFor_wishes, Option.some.injEq] at hasked
    rw [← hasked]
    exact trivial
  extra_inRange := hextra
  unknown := ⟨_, wishFor_wishes hints family named .unk, hunk⟩

/-! ## The table of ids -/

/-- The table of ids that a descriptor states for a tokenizer, and in which way: as it is, or by
    a list of scored pieces. -/
inductive States (d : Descriptor) (t : Tokenizer Float) : List (String × Json) → Prop
  | table {entries : List (String × Json)} (vocab : d.model.get "vocab" = .obj entries) :
      States d t entries
  | pieces {items : List Json} {pieces : List (String × Float)} {u : Unigram Float}
      (vocab : d.model.get "vocab" = .arr items) (scored : List.Forall₂ Scores items pieces)
      (scores_eq : u.scores = (scoresFor t.vocabulary pieces).toArray)
      (model_eq : t.model = .unigram u) : States d t (pieceIds pieces)

/-- What is there when a descriptor has been loaded. -/
structure Loaded (d : Descriptor) (hints : Hints) (t : Tokenizer Float) : Prop where
  vocabulary : ∃ entries ids wishes, States d t entries ∧ withAdded entries d.added = .ok ids ∧
    Vocabulary.ofMapping ids wishes d.extra = .ok t.vocabulary ∧
    ∃ family, ∀ slot, slot ≠ .unk → Vocabulary.wishFor wishes slot
      = some (.oneOf (hints.candidates family d.named slot))
  ends : ∃ usual, (t.addStart, t.addEnd) = d.addEnds hints usual

theorem states_of_tokenIds {ids : List (String × Json)} (h : d.tokenIds = .ok ids) :
    ∃ entries, States d t entries ∧ withAdded entries d.added = .ok ids := by
  unfold tokenIds at h
  split at h
  · next entries hvocab => exact ⟨entries, .table hvocab, h⟩
  · cases h

theorem loaded_of_tokenIds {ids : List (String × Json)} {family : Family}
    (hids : d.tokenIds = .ok ids)
    (hv : Vocabulary.ofMapping ids (hints.wishes family d.named) d.extra = .ok t.vocabulary)
    (hends : ∃ usual, (t.addStart, t.addEnd) = d.addEnds hints usual) : Loaded d hints t := by
  rcases states_of_tokenIds (t := t) hids with ⟨entries, hentries, hadded⟩
  exact ⟨⟨entries, ids, _, hentries, hadded, hv, family,
    fun slot _ => wishFor_wishes hints family d.named slot⟩, hends⟩

theorem loadWordPiece_loaded
    (h : (d.loadWordPiece path hints (hints.wishes .wordPiece d.named) config).result = .ok t) :
    Loaded d hints t := by
  unfold loadWordPiece at h
  rcases Outcome.result_bind_eq_ok_iff.1 h with ⟨ids, hids, h⟩
  rcases Outcome.result_bind_eq_ok_iff.1 h with ⟨v, hv, h⟩
  rw [Outcome.result_pure, Except.ok.injEq] at h
  subst h
  exact loaded_of_tokenIds (Outcome.result_ofFile_eq_ok_iff.1 hids) hv ⟨true, rfl⟩

/-- A WordPiece descriptor is loaded as soon as its table makes a vocabulary. -/
theorem result_loadWordPiece {ids : List (String × Json)} {v : Vocabulary}
    (hids : d.tokenIds = .ok ids) (hv : Vocabulary.ofMapping ids wishes d.extra = .ok v) :
    (d.loadWordPiece path hints wishes config).result
      = .ok (Tokenizer.ofWordPiece v config (d.addEnds hints true).1 (d.addEnds hints true).2
        d.wordPiece) := by
  unfold loadWordPiece
  refine Outcome.result_bind_eq_ok_iff.2 ⟨ids, Outcome.result_ofFile_eq_ok_iff.2 hids, ?_⟩
  exact Outcome.result_bind_eq_ok_iff.2 ⟨v, hv, rfl⟩

/-- When the table and the rules of a byte pair descriptor are there, its pattern decides. -/
theorem result_loadBytePair_eq {ids : List (String × Json)} {v : Vocabulary} {rules : MergeRules}
    (hids : d.tokenIds = .ok ids) (hv : Vocabulary.ofMapping ids wishes d.extra = .ok v)
    (hrules : d.rules = .ok rules) : (d.loadBytePair path hints wishes config).result
      = (Tokenizer.patternOf d.splitting.pattern.str?).map fun pattern =>
        Tokenizer.ofBytePair v config (d.addEnds hints v.hasDistinctEnds).1
          (d.addEnds hints v.hasDistinctEnds).2
          { rules
            pattern
            byteLevel := d.splitting.byteLevel
            addPrefixSpace := d.splitting.addPrefixSpace
            suffix := d.modelText "end_of_word_suffix" } := by
  unfold loadBytePair
  rw [Outcome.result_bind_of_ok (Outcome.result_ofFile_eq_ok_iff.2 hids)]
  rw [Outcome.result_bind_of_ok hv]
  rw [Outcome.result_bind_of_ok (Outcome.result_ofFile_eq_ok_iff.2 hrules)]
  dsimp only
  -- There may be a warning about markers, and then the pattern is read in any case.
  split
  · rw [Outcome.result_bind_of_ok (Outcome.result_warn _), Outcome.result_bind]
    rfl
  · rw [Outcome.result_bind]
    rfl

/-- A byte pair descriptor is loaded through its table, its rules and its pattern. -/
theorem loadBytePair_eq_ok (h : (d.loadBytePair path hints wishes config).result = .ok t) :
    ∃ ids v rules pattern, d.tokenIds = .ok ids ∧ Vocabulary.ofMapping ids wishes d.extra = .ok v ∧
      d.rules = .ok rules ∧ Tokenizer.patternOf d.splitting.pattern.str? = .ok pattern ∧
      t = Tokenizer.ofBytePair v config (d.addEnds hints v.hasDistinctEnds).1
        (d.addEnds hints v.hasDistinctEnds).2
        { rules
          pattern
          byteLevel := d.splitting.byteLevel
          addPrefixSpace := d.splitting.addPrefixSpace
          suffix := d.modelText "end_of_word_suffix" } := by
  have hload := h
  unfold loadBytePair at h
  rcases Outcome.result_bind_eq_ok_iff.1 h with ⟨ids, hids, h⟩
  rcases Outcome.result_bind_eq_ok_iff.1 h with ⟨v, hv, h⟩
  rcases Outcome.result_bind_eq_ok_iff.1 h with ⟨rules, hrules, _⟩
  have hfile := Outcome.result_ofFile_eq_ok_iff.1 hids
  have hrules := Outcome.result_ofFile_eq_ok_iff.1 hrules
  rw [result_loadBytePair_eq hfile hv hrules] at hload
  cases hpattern : Tokenizer.patternOf d.splitting.pattern.str? with
  | error e =>
    rw [hpattern] at hload
    cases hload
  | ok pattern =>
    rw [hpattern] at hload
    exact ⟨ids, v, rules, pattern, hfile, hv, hrules, rfl, (Except.ok.inj hload).symm⟩

/-- A byte pair descriptor is loaded as soon as all of these are there. -/
theorem result_loadBytePair {ids : List (String × Json)} {v : Vocabulary} {rules : MergeRules}
    {pattern : SplitPattern} (hids : d.tokenIds = .ok ids)
    (hv : Vocabulary.ofMapping ids wishes d.extra = .ok v) (hrules : d.rules = .ok rules)
    (hpattern : Tokenizer.patternOf d.splitting.pattern.str? = .ok pattern) :
    (d.loadBytePair path hints wishes config).result
      = .ok (Tokenizer.ofBytePair v config (d.addEnds hints v.hasDistinctEnds).1
        (d.addEnds hints v.hasDistinctEnds).2
        { rules
          pattern
          byteLevel := d.splitting.byteLevel
          addPrefixSpace := d.splitting.addPrefixSpace
          suffix := d.modelText "end_of_word_suffix" }) := by
  rw [result_loadBytePair_eq hids hv hrules, hpattern]
  rfl

theorem loadBytePair_loaded
    (h : (d.loadBytePair path hints (hints.wishes .bytePair d.named) config).result = .ok t) :
    Loaded d hints t := by
  rcases loadBytePair_eq_ok h with ⟨ids, v, rules, pattern, hids, hv, _, _, rfl⟩
  exact loaded_of_tokenIds hids hv ⟨_, rfl⟩

/-- The pieces of a descriptor are those of the list in its document. -/
theorem exists_items_of_pieces {pieces : List (String × Float)} (h : d.pieces = .ok pieces) :
    ∃ items, d.model.get "vocab" = .arr items ∧ List.Forall₂ Scores items pieces := by
  unfold Descriptor.pieces at h
  split at h
  · next items hvocab => exact ⟨items, hvocab, piecesFrom_scores h⟩
  · cases h

theorem loadUnigram_loaded {family : Family}
    (h : (d.loadUnigram path hints (hints.wishes family d.named) config).result = .ok t) :
    Loaded d hints t := by
  unfold loadUnigram at h
  rcases Outcome.result_bind_eq_ok_iff.1 h with ⟨pieces, hpieces, h⟩
  rcases Outcome.result_bind_eq_ok_iff.1 h with ⟨ids, hids, h⟩
  rcases Outcome.result_bind_eq_ok_iff.1 h with ⟨v, hv, h⟩
  rcases Outcome.result_bind_eq_ok_iff.1 h with ⟨u, hu, h⟩
  rw [Outcome.result_pure, Except.ok.injEq] at h
  subst h
  rcases Unigram.result_ofScores_eq_ok_iff.1 hu with ⟨_, rfl⟩
  rcases exists_items_of_pieces (Outcome.result_ofFile_eq_ok_iff.1 hpieces) with
    ⟨items, hvocab, hscored⟩
  exact ⟨⟨_, ids, _, .pieces hvocab hscored rfl rfl, Outcome.result_ofFile_eq_ok_iff.1 hids, hv,
    family, fun slot hslot => wishFor_unigramWishes hints family hslot⟩, true, rfl⟩

/-- A descriptor is loaded through its table and its vocabulary. -/
theorem load_loaded {options : Option Config}
    (h : (d.load path hints options).result = .ok t) : Loaded d hints t := by
  unfold load at h
  split at h
  · cases h
  · next family _ =>
    rcases Outcome.result_bind_eq_ok_iff.1 h with ⟨config, _, h⟩
    cases family with
    | wordPiece => exact loadWordPiece_loaded h
    | bytePair => exact loadBytePair_loaded h
    | unigram => exact loadUnigram_loaded h

/-! ## Scores -/

/-- There are as many scores as tokens when a vocabulary is made of a list of pieces. -/
theorem length_scoresFor {pieces : List (String × Float)} {ids : List (String × Json)}
    {v : Vocabulary} (hids : withAdded (pieceIds pieces) d.added = .ok ids)
    (hv : Vocabulary.ofMapping ids wishes d.extra = .ok v) :
    (scoresFor v pieces).length = v.size := by
  have hle := length_le_of_merges (withAdded_merges hids)
  have hsize := (Vocabulary.represents_of_ofMapping hv).size_eq
  rw [scoresFor, List.length_append, List.length_map, List.length_replicate]
  omega

/-- A unigram descriptor is loaded as soon as its pieces are found and make a vocabulary with
    the added tokens. So the number of scores is never what it fails for. -/
theorem exists_loadUnigram {pieces : List (String × Float)} {ids : List (String × Json)}
    {v : Vocabulary} (hpieces : d.pieces = .ok pieces)
    (hids : withAdded (pieceIds pieces) d.added = .ok ids)
    (hv : Vocabulary.ofMapping ids (d.unigramWishes wishes) d.extra = .ok v) :
    ∃ t, (d.loadUnigram path hints wishes config).result = .ok t ∧ t.vocabulary = v := by
  let u := Unigram.make v (scoresFor v pieces) d.splitting.metaspacePrefix
    (d.model.get "byte_fallback").holds
  have hu : (Unigram.ofScores v (scoresFor v pieces) d.splitting.metaspacePrefix
      (d.model.get "byte_fallback").holds).result = .ok u :=
    Unigram.result_ofScores_eq_ok_iff.2 ⟨length_scoresFor hids hv, rfl⟩
  have ht : (d.loadUnigram path hints wishes config).result
      = .ok ⟨v, config, (d.addEnds hints true).1, (d.addEnds hints true).2, none, .unigram u⟩ := by
    unfold loadUnigram
    refine Outcome.result_bind_eq_ok_iff.2 ⟨_, Outcome.result_ofFile_eq_ok_iff.2 hpieces, ?_⟩
    refine Outcome.result_bind_eq_ok_iff.2 ⟨_, Outcome.result_ofFile_eq_ok_iff.2 hids, ?_⟩
    refine Outcome.result_bind_eq_ok_iff.2 ⟨v, hv, ?_⟩
    exact Outcome.result_bind_eq_ok_iff.2 ⟨_, hu, rfl⟩
  exact ⟨_, ht, rfl⟩

end Descriptor

namespace Tokenizer

variable [PieceLibrary] {tree : FileTree} {directory root : FilePath} {config : Option Config}
  {choice : Option PolicyChoice} {t : Tokenizer Float}

/-- The files of a directory are loaded in its layout with the hints beside them, and then a
    policy is chosen. -/
theorem load_eq_ok_layout {layout : Layout}
    (hlayout : Layout.locate tree directory = .ok (root, layout))
    (h : (load tree directory config choice).result = .ok t) :
    ∃ hints plain policy, (Hints.read tree root).result = .ok hints ∧
      (loadLayout layout tree root hints config).result = .ok plain ∧
      t = plain.withPolicy policy := by
  rcases Outcome.result_bind_eq_ok_iff.1 h with ⟨plain, hplain, h⟩
  have hpolicy : ∃ policy, t = plain.withPolicy policy := by
    cases choice with
    | none => exact ⟨plain.policy, (Except.ok.inj h).symm⟩
    | some choice =>
      rcases Outcome.result_bind_eq_ok_iff.1 h with ⟨policy, _, h⟩
      exact ⟨some policy, (Except.ok.inj h).symm⟩
  rcases hpolicy with ⟨policy, hpolicy⟩
  rcases Outcome.result_bind_eq_ok_iff.1 hplain with ⟨found, hfound, hplain⟩
  rw [Outcome.result_ofExcept, hlayout, Except.ok.injEq] at hfound
  subst hfound
  rcases Outcome.result_bind_eq_ok_iff.1 hplain with ⟨hints, hhints, hplain⟩
  exact ⟨hints, plain, policy, hhints, hplain, hpolicy⟩

/-- The document of a directory is loaded as a descriptor, and then a policy is chosen. -/
theorem load_eq_ok_descriptor (hlayout : Layout.locate tree directory = .ok (root, .descriptor))
    (h : (load tree directory config choice).result = .ok t) :
    ∃ document d hints plain policy, tree.readDocument (root.child Layout.descriptorFile)
        = .ok document ∧
      (Descriptor.ofJson document (some (root.child Layout.descriptorFile).toString)).result
        = .ok d ∧
      (d.load (root.child Layout.descriptorFile) hints config).result = .ok plain ∧
      t = plain.withPolicy policy := by
  rcases load_eq_ok_layout hlayout h with ⟨hints, plain, policy, _, hplain, hpolicy⟩
  rcases Outcome.result_bind_eq_ok_iff.1 hplain with ⟨document, hdocument, hplain⟩
  rcases Outcome.result_bind_eq_ok_iff.1 hplain with ⟨d, hd, hplain⟩
  exact ⟨document, d, hints, plain, policy, hdocument, hd, hplain, hpolicy⟩

/-- What is loaded has gone through all steps. -/
theorem load_eq_ok (hlayout : Layout.locate tree directory = .ok (root, .descriptor))
    (h : (load tree directory config choice).result = .ok t) :
    ∃ document d hints plain policy, tree.readDocument (root.child Layout.descriptorFile)
        = .ok document ∧
      (Descriptor.ofJson document (some (root.child Layout.descriptorFile).toString)).result
        = .ok d ∧
      Descriptor.Loaded d hints plain ∧ t = plain.withPolicy policy := by
  rcases load_eq_ok_descriptor hlayout h with
    ⟨document, d, hints, plain, policy, hdocument, hd, hplain, hpolicy⟩
  exact ⟨document, d, hints, plain, policy, hdocument, hd, Descriptor.load_loaded hplain, hpolicy⟩

end Tokenizer

end Subword
