import Subword.Proofs.Directory.Document
import Subword.Proofs.Directory.Stated
import Subword.Proofs.Directory.Wrapping
import Subword.Proofs.Vocabulary.Lines

/-!
# Where the tokens in the slots come from

A slot of a tokenizer that is loaded from a directory goes to the first token of
its vocabulary among candidates from up to four sources: the descriptor, the
document for special tokens, the document for options, and what is usual for the
family. The two documents count as one source, in which the first counts unless
it says nothing. Loading puts the sources together by preferring a token to a
list that may have it already. That leaves one copy of it, which makes no
difference to what is found first.

What the files of a directory state is kept apart here from what is loaded: the
family, the tokens that a descriptor names, the tokens of the vocabulary, and the
id that a unigram descriptor may give to the unknown token. Loading fails when
the unknown token is none of these tokens, whatever else the directory holds.

## Main definitions

* `Json.NamesToken`: A value that names a token.
* `Hints.NamesFor`: What a document names for a slot.
* `Hints.Hinted`: What the two documents name together.
* `Sources.StatedIn`: What the files of a directory state.
* `Sources.FilledBy`: A vocabulary whose slots have the first candidates that are tokens.

## Theorems

* `Hints.namedIn_iff`, `Hints.hinted_iff`: What documents name is what is read from them.
* `Hints.findSome?_candidates`: Candidates are found in the order of their sources.
* `Sources.StatedIn.agree`: The files state one thing.
* `Tokenizer.exists_sources`: What is loaded is stated, and its slots are filled by that.
* `Tokenizer.load_slots`: What is in the slots of a tokenizer that is loaded.
-/

namespace Subword

/-! ## Hints -/

/-- A value that names a token: a text that is not empty, or an object with one as its content. -/
inductive Json.NamesToken : Json → String → Prop
  | text {token : String} (ne_empty : token ≠ "") : NamesToken (.str token) token
  | content {fields : List (String × Json)} {token : String}
      (content : fields.lookup "content" = some (.str token)) (ne_empty : token ≠ "") :
      NamesToken (.obj fields) token

/-- The text in a field is found there. -/
theorem Json.str?_get_eq_some_iff {value : Json} {key text : String} :
    (value.get key).str? = some text ↔ value.get? key = some (.str text) := by
  unfold Json.get
  cases value.get? key with
  | none => simp only [Option.getD_none, str?, reduceCtorEq]
  | some found => rw [Option.getD_some, str?_eq_some_iff, Option.some.injEq]

namespace Hints

variable {document options tokens : Json} {slot : Slot} {found : Option String}

/-- What a document names for a slot: the token in the first field that names one, if there is
    one. -/
inductive NamesFor (document : Json) (slot : Slot) : Option String → Prop
  | first {before after : List String} {field token : String}
      (fields_eq : fields slot = before ++ field :: after)
      (silent : ∀ other ∈ before, ∀ name, ¬ (document.get other).NamesToken name)
      (names : (document.get field).NamesToken token) : NamesFor document slot (some token)
  | silent (silent : ∀ field ∈ fields slot, ∀ name, ¬ (document.get field).NamesToken name) :
      NamesFor document slot none

/-- What the document for options and the one for special tokens name together. The first has no
    say where the second names a token. -/
inductive Hinted (options tokens : Json) (slot : Slot) : Option String → Prop
  | tokens {token : String} (names : NamesFor tokens slot (some token)) :
      Hinted options tokens slot (some token)
  | options {found : Option String} (silent : NamesFor tokens slot none)
      (names : NamesFor options slot found) : Hinted options tokens slot found

theorem tokenOf?_eq_some_iff {value : Json} {token : String} :
    tokenOf? value = some token ↔ value.NamesToken token := by
  have hfilter : ∀ found : Option String,
      found.filter (!·.isEmpty) = some token ↔ found = some token ∧ token ≠ "" := by
    intro found
    simp only [Option.filter_eq_some_iff, Bool.not_eq_true', String.isEmpty_eq_false_iff]
  unfold tokenOf?
  rw [hfilter]
  constructor
  · rintro ⟨htoken, hne⟩
    cases value with
    | str s =>
      rw [Option.some.inj htoken]
      exact .text hne
    | obj fields => exact .content (Json.str?_get_eq_some_iff.1 htoken) hne
    | _ => cases htoken
  · rintro (hne | ⟨hcontent, hne⟩)
    · exact ⟨rfl, hne⟩
    · exact ⟨Json.str?_get_eq_some_iff.2 hcontent, hne⟩

/-- What a document names is what is read from it. -/
theorem namedIn_iff : namedIn document slot = found ↔ NamesFor document slot found := by
  have hsilent : ∀ field, tokenOf? (document.get field) = none ↔
      ∀ name, ¬ (document.get field).NamesToken name := by
    intro field
    rw [Option.eq_none_iff_forall_ne_some]
    simp only [ne_eq, tokenOf?_eq_some_iff]
  cases found with
  | none =>
    rw [namedIn, List.findSome?_eq_none_iff]
    constructor
    · exact fun h => .silent fun field hfield => (hsilent field).1 (h field hfield)
    · rintro (_ | h)
      exact fun field hfield => (hsilent field).2 (h field hfield)
  | some token =>
    rw [namedIn, List.findSome?_eq_some_iff]
    constructor
    · rintro ⟨before, field, after, heq, hfield, hbefore⟩
      exact .first heq (fun other hother => (hsilent other).1 (hbefore other hother))
        (tokenOf?_eq_some_iff.1 hfield)
    · rintro ⟨heq, hbefore, hnames⟩
      exact ⟨_, _, _, heq, tokenOf?_eq_some_iff.2 hnames,
        fun other hother => (hsilent other).2 (hbefore other hother)⟩

/-- What two documents name together is what hints are made of. -/
theorem hinted_iff :
    Hinted options tokens slot found ↔ (ofDocuments options tokens).named slot = found := by
  show _ ↔ (namedIn tokens slot).or (namedIn options slot) = found
  constructor
  · rintro (hnames | ⟨hsilent, hnames⟩)
    · rw [namedIn_iff.2 hnames]
      rfl
    · rw [namedIn_iff.2 hsilent, Option.none_or, namedIn_iff.2 hnames]
  · intro h
    cases htokens : namedIn tokens slot with
    | some token =>
      rw [htokens, Option.some_or] at h
      subst h
      exact .tokens (namedIn_iff.1 htokens)
    | none =>
      rw [htokens, Option.none_or] at h
      exact .options (namedIn_iff.1 htokens) (namedIn_iff.1 h)

/-! ## Candidates -/

/-- A token that is preferred to candidates is found first, and then the candidates are. -/
theorem findSome?_prefer {α : Type} (f : String → Option α) (token : String)
    (candidates : List String) :
    (prefer token candidates).findSome? f = (token :: candidates).findSome? f := by
  rw [prefer, List.findSome?_cons, List.findSome?_cons]
  cases htoken : f token with
  | some a => rfl
  | none =>
    -- The copies that are left out would not have been found.
    dsimp only
    induction candidates with
    | nil => rfl
    | cons candidate rest ih =>
      by_cases heq : candidate = token
      · rw [List.filter_cons_of_neg (by simp [heq]), ih, List.findSome?_cons, heq, htoken]
      · rw [List.filter_cons_of_pos (by simpa using heq), List.findSome?_cons,
          List.findSome?_cons, ih]

/-- Candidates are found in the order of their sources. -/
theorem findSome?_candidates {α : Type} (f : String → Option α) (hints : Hints) (family : Family)
    (named : Slot → Option String) (slot : Slot) :
    (hints.candidates family named slot).findSome? f
      = ((named slot).toList ++ (hints.named slot).toList ++ family.candidates slot).findSome?
          f := by
  unfold candidates
  cases named slot with
  | none =>
    cases hints.named slot with
    | none => rfl
    | some hint => exact findSome?_prefer f hint _
  | some token =>
    cases hints.named slot with
    | none => exact findSome?_prefer f token _
    | some hint =>
      show (prefer token (prefer hint _)).findSome? f = _
      rw [findSome?_prefer, List.findSome?_cons, findSome?_prefer]
      rfl

end Hints

/-! ## What a descriptor asks for -/

namespace Descriptor

variable {d : Descriptor} {path : FilePath} {hints : Hints} {t : Tokenizer Float}
  {family : Family}

/-- The wishes for the slots of a descriptor. -/
def asked (d : Descriptor) (hints : Hints) (family : Family) : Wishes :=
  match family with
  | .unigram => d.unigramWishes (hints.wishes .unigram d.named)
  | family => hints.wishes family d.named

theorem wishFor_asked {slot : Slot} (h : slot = .unk → d.unknownId family = none) :
    Vocabulary.wishFor (d.asked hints family) slot
      = some (.oneOf (hints.candidates family d.named slot)) := by
  cases family with
  | unigram =>
    by_cases hslot : slot = .unk
    · -- No integer stands in the field for the id, so nothing is put in the place of a wish.
      have hid : (d.model.get "unk_id").int? = none := h hslot
      have hwishes : d.asked hints .unigram = hints.wishes .unigram d.named := by
        show d.unigramWishes _ = _
        unfold unigramWishes
        split
        · next id heq =>
          rw [heq] at hid
          cases hid
        · rfl
      rw [hwishes]
      exact wishFor_wishes hints .unigram d.named slot
    · exact wishFor_unigramWishes hints .unigram hslot
  | _ => exact wishFor_wishes hints _ d.named slot

theorem wishFor_asked_unk {id : Int} (h : d.unknownId family = some id) :
    Vocabulary.wishFor (d.asked hints family) .unk = some (.id id) := by
  rcases unknownId_eq_some_iff.1 h with ⟨rfl, hid⟩
  show Vocabulary.wishFor (d.unigramWishes _) .unk = _
  unfold unigramWishes
  rw [hid]
  unfold Vocabulary.wishFor withUnknownId Hints.wishes
  simp [Slot.all, Slot.name]

/-- A descriptor is loaded through the table of its family. -/
theorem load_eq_ok_table {options : Option Config}
    (h : (d.load path hints options).result = .ok t) : ∃ family ids, d.family? = some family ∧
      d.table family = .ok ids ∧
      Vocabulary.ofMapping ids (d.asked hints family) d.extra = .ok t.vocabulary := by
  unfold load at h
  split at h
  · cases h
  · next family hfamily =>
    rcases Outcome.result_bind_eq_ok_iff.1 h with ⟨config, _, h⟩
    cases family with
    | wordPiece =>
      rcases Outcome.result_bind_eq_ok_iff.1 h with ⟨ids, hids, h⟩
      rcases Outcome.result_bind_eq_ok_iff.1 h with ⟨v, hv, h⟩
      rw [← Except.ok.inj h]
      exact ⟨_, ids, hfamily, Outcome.result_ofFile_eq_ok_iff.1 hids, hv⟩
    | bytePair =>
      rcases loadBytePair_eq_ok h with ⟨ids, v, _, _, hids, hv, _, _, rfl⟩
      exact ⟨_, ids, hfamily, hids, hv⟩
    | unigram =>
      rcases Outcome.result_bind_eq_ok_iff.1 h with ⟨pieces, hpieces, h⟩
      rcases Outcome.result_bind_eq_ok_iff.1 h with ⟨ids, hids, h⟩
      rcases Outcome.result_bind_eq_ok_iff.1 h with ⟨v, hv, h⟩
      rcases Outcome.result_bind_eq_ok_iff.1 h with ⟨u, _, h⟩
      rw [← Except.ok.inj h]
      refine ⟨_, ids, hfamily, bind_eq_ok_iff.2 ⟨pieces, ?_, ?_⟩, hv⟩
      · exact Outcome.result_ofFile_eq_ok_iff.1 hpieces
      · exact Outcome.result_ofFile_eq_ok_iff.1 hids

end Descriptor

/-! ## What the files of a directory state -/

namespace Sources

/-- What the files of a layout state. Only a descriptor names tokens beside those of the
    vocabulary. -/
inductive StatedIn (tree : FileTree) (root : FilePath) : Layout → Sources → Prop
  | tokenList {lines : List String}
      (read : tree.readLines (root.child Layout.tokenListFile) = .ok lines) :
      StatedIn tree root .tokenList
        ⟨.wordPiece, fun _ => none,
          lines.map fun line => String.ofList (Text.trimLineEnds line.toList), none⟩
  | bytePairFiles {ids : List (String × Json)}
      (read : tree.readTokenIds (root.child Layout.tokenIdFile) = .ok ids) :
      StatedIn tree root .bytePairFiles ⟨.bytePair, fun _ => none, ids.map Prod.fst, none⟩
  | descriptor {document : Json} {sources : Sources}
      (read : tree.readDocument (root.child Layout.descriptorFile) = .ok document)
      (states : document.States sources) : StatedIn tree root .descriptor sources

variable {tree : FileTree} {root : FilePath} {layout : Layout} {sources : Sources}

theorem Agree.refl (sources : Sources) : sources.Agree sources := ⟨rfl, rfl, fun _ => Iff.rfl, rfl⟩

/-- The files state one thing. -/
theorem StatedIn.agree {other : Sources} (h : StatedIn tree root layout sources)
    (hother : StatedIn tree root layout other) : sources.Agree other := by
  cases h with
  | tokenList hread =>
    cases hother with
    | tokenList hother =>
      rcases Except.ok.inj (hread.symm.trans hother)
      exact .refl _
  | bytePairFiles hread =>
    cases hother with
    | bytePairFiles hother =>
      rcases Except.ok.inj (hread.symm.trans hother)
      exact .refl _
  | descriptor hread hstates =>
    cases hother with
    | descriptor hother hsame =>
      rcases Except.ok.inj (hread.symm.trans hother)
      exact hstates.agree hsame

/-- The tokens tried for a slot, beside which `hinted` is the one that the documents name. -/
def candidates (sources : Sources) (hinted : Slot → Option String) (slot : Slot) : List String :=
  (sources.named slot).toList ++ (hinted slot).toList ++ sources.family.candidates slot

/-- A vocabulary that has the tokens of some sources, and in each slot the first candidate that is
    a token. The id that a descriptor gives to the unknown token counts for all candidates. -/
structure FilledBy (sources : Sources) (hinted : Slot → Option String) (v : Vocabulary) :
    Prop where
  tokens : v.tokens.toList.Perm sources.tokens
  slots : ∀ slot, (slot = .unk → sources.unknownId = none) → Vocabulary.Granted v.tokens
    (some (.oneOf (sources.candidates hinted slot))) (v.special.inSlot slot)
  empty_iff : ∀ slot, (slot = .unk → sources.unknownId = none) → (v.special.inSlot slot = none ↔
    ∀ candidate ∈ sources.candidates hinted slot, candidate ∉ sources.tokens)
  unknown : ∀ id, sources.unknownId = some id → (v.special.unk : Int) = id

variable {v : Vocabulary} {wishes : Wishes} {extra : List Slot.Wish} {hints : Hints}

theorem Agree.candidates_eq {other : Sources} (h : sources.Agree other)
    (hinted : Slot → Option String) (slot : Slot) :
    sources.candidates hinted slot = other.candidates hinted slot := by
  rw [candidates, candidates, h.named, h.family]

theorem candidates_of_named {hinted : Slot → Option String} {slot : Slot} {token : String}
    (h : sources.named slot = some token) : sources.candidates hinted slot
      = token :: ((hinted slot).toList ++ sources.family.candidates slot) := by
  rw [candidates, h]
  rfl

theorem candidates_of_hinted {hinted : Slot → Option String} {slot : Slot} {token : String}
    (hnamed : sources.named slot = none) (h : hinted slot = some token) :
    sources.candidates hinted slot = token :: sources.family.candidates slot := by
  rw [candidates, hnamed, h]
  rfl

/-- A slot has its first candidate when that is a token. -/
theorem FilledBy.first {hinted : Slot → Option String} {candidate : String}
    {others : List String} (h : sources.FilledBy hinted v) (slot : Slot)
    (hslot : slot = .unk → sources.unknownId = none)
    (hcandidates : sources.candidates hinted slot = candidate :: others)
    (hmem : candidate ∈ v.tokens.toList) :
    v.special.inSlot slot ≠ none ∧ v.special.inSlot slot = v.get? candidate := by
  rcases Option.ne_none_iff_exists'.1 (Vocabulary.get?_ne_none_iff.2 hmem) with ⟨n, hn⟩
  have hgranted := h.slots slot hslot
  rw [hcandidates] at hgranted
  rw [hgranted.unique (Vocabulary.granted_cons hn _)]
  exact ⟨Option.some_ne_none n, hn.symm⟩

/-- A slot stays empty when no candidate is a token. -/
theorem granted_none_iff {tokens : Numbering String} {candidates : List String}
    {found : Option Nat} (h : Vocabulary.Granted tokens (some (.oneOf candidates)) found) :
    found = none ↔ ∀ candidate ∈ candidates, candidate ∉ tokens.toList := by
  rw [← Vocabulary.granted_oneOf_iff.2 h, List.findSome?_eq_none_iff]
  refine forall₂_congr fun candidate _ => ?_
  rw [← Vocabulary.get?_ne_none_iff, ne_eq, not_not]

/-- A vocabulary has its slots filled by some sources when they say what it is asked for. -/
theorem filledBy_of_fulfils (hfulfils : Vocabulary.Fulfils v.tokens wishes extra v.special)
    (htokens : v.tokens.toList.Perm sources.tokens)
    (hwishes : ∀ slot, (slot = .unk → sources.unknownId = none) →
      Vocabulary.wishFor wishes slot
        = some (.oneOf (hints.candidates sources.family sources.named slot)))
    (hid : ∀ id, sources.unknownId = some id → Vocabulary.wishFor wishes .unk = some (.id id)) :
    sources.FilledBy hints.named v := by
  have hslots : ∀ slot, (slot = .unk → sources.unknownId = none) → Vocabulary.Granted v.tokens
      (some (.oneOf (sources.candidates hints.named slot))) (v.special.inSlot slot) := by
    intro slot hslot
    have hgranted := hfulfils.slots slot
    rw [hwishes slot hslot, ← Vocabulary.granted_oneOf_iff, Hints.findSome?_candidates] at hgranted
    exact Vocabulary.granted_oneOf_iff.1 hgranted
  refine ⟨htokens, hslots, ?_, ?_⟩
  · intro slot hslot
    rw [granted_none_iff (hslots slot hslot)]
    refine forall₂_congr fun candidate _ => ?_
    rw [htokens.mem_iff]
  · intro id hunknown
    have hgranted : Vocabulary.Granted v.tokens _ (some v.special.unk) := hfulfils.slots .unk
    rw [hid id hunknown] at hgranted
    cases hgranted with
    | id _ => rfl

/-- Without a descriptor, the slots are filled by the hints and what is usual. -/
theorem filledBy_of_wishes {family : Family} {tokens : List String}
    (hfulfils : Vocabulary.Fulfils v.tokens (hints.wishes family) extra v.special)
    (htokens : v.tokens.toList.Perm tokens) :
    FilledBy ⟨family, fun _ => none, tokens, none⟩ hints.named v := by
  refine filledBy_of_fulfils hfulfils htokens ?_ ?_
  · exact fun slot _ => Descriptor.wishFor_wishes hints family _ slot
  · intro id h
    cases h

end Sources

/-- The slots of a descriptor are filled by what it names. -/
theorem Descriptor.filledBy {d : Descriptor} {family : Family} {ids : List (String × Json)}
    {hints : Hints} {v : Vocabulary}
    (hv : Vocabulary.ofMapping ids (d.asked hints family) d.extra = .ok v) :
    Sources.FilledBy ⟨family, d.named, ids.map Prod.fst, d.unknownId family⟩ hints.named v := by
  refine Sources.filledBy_of_fulfils (Vocabulary.represents_of_ofMapping hv).special ?_ ?_ ?_
  · exact (Vocabulary.tokens_perm_of_ofMapping hv).symm
  · exact fun slot hslot => wishFor_asked hslot
  · exact fun id hid => wishFor_asked_unk hid

/-! ## Loading -/

namespace Hints

variable {tree : FileTree} {root : FilePath} {hints : Hints}

/-- The two documents in a directory. -/
structure DocumentsIn (tree : FileTree) (root : FilePath) (options tokens : Json) : Prop where
  options : (readOptional tree root optionFile).result = .ok options
  tokens : (readOptional tree root tokenFile).result = .ok tokens

theorem DocumentsIn.unique {options tokens options' tokens' : Json}
    (h : DocumentsIn tree root options tokens) (hother : DocumentsIn tree root options' tokens') :
    options = options' ∧ tokens = tokens' :=
  ⟨Except.ok.inj (h.options.symm.trans hother.options),
    Except.ok.inj (h.tokens.symm.trans hother.tokens)⟩

/-- Hints are read from the two documents. -/
theorem read_eq_ok_iff : (read tree root).result = .ok hints ↔ ∃ options tokens,
    DocumentsIn tree root options tokens ∧ hints = ofDocuments options tokens := by
  constructor
  · intro h
    rcases Outcome.result_bind_eq_ok_iff.1 h with ⟨options, hoptions, h⟩
    rcases Outcome.result_bind_eq_ok_iff.1 h with ⟨tokens, htokens, h⟩
    exact ⟨options, tokens, ⟨hoptions, htokens⟩, (Except.ok.inj h).symm⟩
  · rintro ⟨options, tokens, ⟨hoptions, htokens⟩, rfl⟩
    refine Outcome.result_bind_eq_ok_iff.2 ⟨options, hoptions, ?_⟩
    exact Outcome.result_bind_eq_ok_iff.2 ⟨tokens, htokens, rfl⟩

/-- The document in a file is read when it is an object. -/
theorem readOptional_of_status {file text : String} {document : Json}
    (h : tree.status (root.child file) = .file (Text.Utf8.encode text.toList))
    (hparse : Json.parse text = .ok document) (hobject : document.isObject = true) :
    (readOptional tree root file).result = .ok document := by
  have hfile : tree.isFile (root.child file) = true := by
    unfold FileTree.isFile
    rw [h]
  unfold readOptional
  dsimp only
  rw [hfile]
  refine Outcome.result_bind_eq_ok_iff.2 ⟨document, FileTree.readDocument_of_status h hparse, ?_⟩
  rw [hobject]
  rfl

end Hints

namespace Tokenizer

variable {tree : FileTree} {directory root : FilePath} {layout : Layout} {hints : Hints}
  {config : Option Config} {choice : Option PolicyChoice} {t : Tokenizer Float}

/-- What is loaded is stated in the files, and its slots are filled by what they state. -/
theorem exists_sources [PieceLibrary] (hlayout : layout ≠ .pieceModel)
    (h : (loadLayout layout tree root hints config).result = .ok t) :
    ∃ sources, Sources.StatedIn tree root layout sources ∧
      sources.FilledBy hints.named t.vocabulary := by
  cases layout with
  | pieceModel => exact absurd rfl hlayout
  | descriptor =>
    rcases Outcome.result_bind_eq_ok_iff.1 h with ⟨document, hdocument, h⟩
    rcases Outcome.result_bind_eq_ok_iff.1 h with ⟨d, hd, h⟩
    rcases Descriptor.load_eq_ok_table h with ⟨family, ids, hfamily, hids, hv⟩
    exact ⟨_, .descriptor hdocument (Json.states_of_descriptor hd hfamily hids fun _ => Iff.rfl),
      Descriptor.filledBy hv⟩
  | bytePairFiles =>
    rcases Outcome.result_bind_eq_ok_iff.1 h with ⟨ids, hids, h⟩
    rcases Outcome.result_bind_eq_ok_iff.1 h with ⟨rules, _, h⟩
    rcases Outcome.result_bind_eq_ok_iff.1 h with ⟨v, hv, h⟩
    rcases Outcome.result_bind_eq_ok_iff.1 h with ⟨_, _, h⟩
    rw [← Except.ok.inj h]
    refine ⟨_, .bytePairFiles hids, ?_⟩
    exact Sources.filledBy_of_wishes (Vocabulary.represents_of_ofMapping hv).special
      (Vocabulary.tokens_perm_of_ofMapping hv).symm
  | tokenList =>
    rcases Outcome.result_bind_eq_ok_iff.1 h with ⟨lines, hlines, h⟩
    rcases Outcome.result_bind_eq_ok_iff.1 h with ⟨v, hv, h⟩
    rcases Outcome.result_bind_eq_ok_iff.1 h with ⟨_, _, h⟩
    rw [← Except.ok.inj h]
    rcases Vocabulary.ofTokens_fulfils hv with ⟨htokens, hfulfils, _⟩
    exact ⟨_, .tokenList hlines, Sources.filledBy_of_wishes hfulfils (.of_eq htokens)⟩

/-- The slots of a tokenizer that is loaded, unless it is that of a piece model, have the first
    tokens among what the descriptor names, what the documents beside it name, and what is usual.
    Nothing is loaded when the unknown token would be none of these. -/
theorem load_slots [PieceLibrary] (hlocate : Layout.locate tree directory = .ok (root, layout))
    (hlayout : layout ≠ .pieceModel) (config : Option Config) (choice : Option PolicyChoice) :
    (∀ t, (load tree directory config choice).result = .ok t →
      ∃ options tokens sources hinted, Hints.DocumentsIn tree root options tokens ∧
        Sources.StatedIn tree root layout sources ∧
        (∀ slot, Hints.Hinted options tokens slot (hinted slot)) ∧
        sources.FilledBy hinted t.vocabulary) ∧
    ∀ options tokens sources hinted, Hints.DocumentsIn tree root options tokens →
      Sources.StatedIn tree root layout sources →
      (∀ slot, Hints.Hinted options tokens slot (hinted slot)) → sources.unknownId = none →
      (∀ candidate ∈ sources.candidates hinted .unk, candidate ∉ sources.tokens) →
        ∃ e, (load tree directory config choice).result = .error e := by
  have hloaded : ∀ t, (load tree directory config choice).result = .ok t →
      ∃ options tokens sources, Hints.DocumentsIn tree root options tokens ∧
        Sources.StatedIn tree root layout sources ∧
        sources.FilledBy (Hints.ofDocuments options tokens).named t.vocabulary := by
    intro t ht
    rcases load_eq_ok_layout hlocate ht with ⟨hints, plain, policy, hhints, hplain, rfl⟩
    rcases Hints.read_eq_ok_iff.1 hhints with ⟨options, tokens, hdocuments, rfl⟩
    rcases exists_sources hlayout hplain with ⟨sources, hstated, hfilled⟩
    exact ⟨options, tokens, sources, hdocuments, hstated, hfilled⟩
  refine ⟨?_, ?_⟩
  · intro t ht
    rcases hloaded t ht with ⟨options, tokens, sources, hdocuments, hstated, hfilled⟩
    exact ⟨options, tokens, sources, _, hdocuments, hstated,
      fun slot => Hints.hinted_iff.2 rfl, hfilled⟩
  · intro options tokens sources hinted hdocuments hstated hhinted hid habsent
    cases hresult : (load tree directory config choice).result with
    | error e => exact ⟨e, rfl⟩
    | ok t =>
      -- The files state one thing, so what was loaded is missing its unknown token.
      exfalso
      rcases hloaded t hresult with ⟨options', tokens', sources', hdocuments', hstated', hfilled⟩
      rcases hdocuments.unique hdocuments' with ⟨rfl, rfl⟩
      have hagree := hstated.agree hstated'
      have hnamed : (Hints.ofDocuments options tokens).named = hinted :=
        funext fun slot => Hints.hinted_iff.1 (hhinted slot)
      rw [hnamed] at hfilled
      refine Option.some_ne_none _ ((hfilled.empty_iff .unk fun _ => ?_).2 fun candidate hmem => ?_)
      · rw [← hagree.unknownId, hid]
      · rw [← hagree.tokens]
        rw [← hagree.candidates_eq] at hmem
        exact habsent candidate hmem

/-! ## A directory with both documents -/

/-- The text of a document for special tokens that names none for the start. -/
def hintedTokenText : String :=
  "\x7b\"pad_token\": \x7b\"content\": \"<p>\"\x7d, \"bos_token\": \"\"\x7d"

/-- The document in that text. -/
def hintedTokens : Json :=
  .obj [("pad_token", .obj [("content", .str "<p>")]), ("bos_token", .str "")]

theorem parse_hintedTokenText : Json.parse hintedTokenText = .ok hintedTokens := by
  have hparse : Json.parse hintedTokenText = .ok (.obj (Json.mergeFields [
      ("pad_token", .obj (Json.mergeFields [("content", .str "<p>")])),
      ("bos_token", .str "")])) := rfl
  rw [hparse, Json.mergeFields_of_nodup [("content", _)] (by decide),
    Json.mergeFields_of_nodup [("pad_token", _), ("bos_token", _)] (by decide)]
  rfl

/-- The text of a document for options that names another token for the padding. -/
def hintedOptionText : String :=
  "\x7b\"pad_token\": \"[PAD]\", \"cls_token\": \"<c>\"\x7d"

/-- The document in that text. -/
def hintedOptions : Json := .obj [("pad_token", .str "[PAD]"), ("cls_token", .str "<c>")]

theorem parse_hintedOptionText : Json.parse hintedOptionText = .ok hintedOptions := by
  have hparse : Json.parse hintedOptionText = .ok (.obj (Json.mergeFields [
      ("pad_token", .str "[PAD]"), ("cls_token", .str "<c>")])) := rfl
  rw [hparse, Json.mergeFields_of_nodup [("pad_token", _), ("cls_token", _)] (by decide)]
  rfl

/-- A directory with a list of tokens and these documents. -/
def hintedTree : FileTree := ⟨[
  (["m", "vocab.txt"], .file (Text.Utf8.encode "[UNK]\n<p>\n[PAD]\n<c>".toList)),
  (["m", "special_tokens_map.json"], .file (Text.Utf8.encode hintedTokenText.toList)),
  (["m", "tokenizer_config.json"], .file (Text.Utf8.encode hintedOptionText.toList))]⟩

theorem locate_hintedTree :
    Layout.locate hintedTree FileTree.home = .ok (FileTree.home, .tokenList) := rfl

theorem documentsIn_hintedTree :
    Hints.DocumentsIn hintedTree FileTree.home hintedOptions hintedTokens where
  options := Hints.readOptional_of_status rfl parse_hintedOptionText rfl
  tokens := Hints.readOptional_of_status rfl parse_hintedTokenText rfl

theorem readLines_hintedTree : hintedTree.readLines (FileTree.home.child Layout.tokenListFile)
    = .ok ["[UNK]", "<p>", "[PAD]", "<c>"] := by
  have htext : hintedTree.readText (FileTree.home.child Layout.tokenListFile)
      = .ok "[UNK]\n<p>\n[PAD]\n<c>".toList := FileTree.readText_of_status rfl
  unfold FileTree.readLines
  rw [htext]
  rfl

theorem exists_load_hintedTree : ∃ t, (load hintedTree FileTree.home).result = .ok t := by
  let hints := Hints.ofDocuments hintedOptions hintedTokens
  have hwishes : Vocabulary.Resolvable ["[UNK]", "<p>", "[PAD]", "<c>"]
      (hints.wishes .wordPiece) [] := by
    refine ⟨Descriptor.known_wishes _ _ _, ?_, ?_, ?_⟩
    · intro slot asked hasked
      rw [Descriptor.wishFor_wishes, Option.some.injEq] at hasked
      rw [← hasked]
      exact trivial
    · exact fun asked hmem => absurd hmem List.not_mem_nil
    · exact ⟨_, Descriptor.wishFor_wishes hints .wordPiece _ .unk, "[UNK]", by decide, by decide⟩
  rcases (Vocabulary.exists_ofTokens_iff (by decide)).2 hwishes with ⟨v, hv⟩
  have hconfig : ∃ config, hints.config { lowercaseElse := true } = .ok config := ⟨_, rfl⟩
  rcases hconfig with ⟨config, hconfig⟩
  have hhints : (Hints.read hintedTree FileTree.home).result = .ok hints :=
    Hints.read_eq_ok_iff.2 ⟨_, _, documentsIn_hintedTree, rfl⟩
  refine ⟨Tokenizer.ofWordPiece v config (hints.wrapping true).1 (hints.wrapping true).2 {}, ?_⟩
  rw [result_load_of_locate locate_hintedTree hhints]
  refine Outcome.result_bind_eq_ok_iff.2 ⟨_, readLines_hintedTree, ?_⟩
  refine Outcome.result_bind_eq_ok_iff.2 ⟨v, hv, ?_⟩
  exact Outcome.result_bind_eq_ok_iff.2 ⟨config, hconfig, rfl⟩

/-- A directory with a list of tokens none of which is for the unknown token. -/
def unhintedTree : FileTree := ⟨[(["m", "vocab.txt"], .file (Text.Utf8.encode "a\nb".toList))]⟩

theorem readLines_unhintedTree :
    unhintedTree.readLines (FileTree.home.child Layout.tokenListFile) = .ok ["a", "b"] := by
  have htext : unhintedTree.readText (FileTree.home.child Layout.tokenListFile)
      = .ok "a\nb".toList := FileTree.readText_of_status rfl
  unfold FileTree.readLines
  rw [htext]
  rfl

/-- A template names the tokens next to the sequence for the start and the end. -/
theorem names_templateDocument :
    templateDocument.Names .bos "[CLS]" ∧ templateDocument.Names .eos "[SEP]" := by
  have haround : templateDocument.PutsAround (some ⟨.str "[CLS]", .str "[SEP]"⟩) :=
    (Json.putsAround_iff rfl).2 (Wrapping.ofComponents?_template hasTemplate_templateDocument)
  exact ⟨.bos haround, .eos haround⟩

/-- The padding is what the document for special tokens names, the start what the other one names,
    and no token is there for the end. With a descriptor, the start and the end are what its
    template names. Without a token for the unknown one, nothing is loaded. -/
theorem load_slots_of_hinted : (∃ t, (load hintedTree FileTree.home).result = .ok t ∧
      (t.vocabulary.special.pad ≠ none ∧
        t.vocabulary.special.pad = t.vocabulary.get? "<p>") ∧
      (t.vocabulary.special.bos ≠ none ∧
        t.vocabulary.special.bos = t.vocabulary.get? "<c>") ∧
      t.vocabulary.special.eos = none) ∧
    (∃ t, (load (FileTree.holding templateText) FileTree.home
        (some (Config.uncapped true))).result = .ok t ∧
      t.vocabulary.special.bos = some 1 ∧ t.vocabulary.special.eos = some 2) ∧
    ∃ e, (load unhintedTree FileTree.home).result = .error e := by
  refine ⟨?_, ?_, ?_⟩
  · rcases exists_load_hintedTree with ⟨t, ht⟩
    rcases (load_slots locate_hintedTree (by decide) none none).1 t ht with
      ⟨options, tokens, sources, hinted, hdocuments, hstated, hhinted, hfilled⟩
    rcases documentsIn_hintedTree.unique hdocuments with ⟨rfl, rfl⟩
    cases hstated with
    | tokenList hread =>
      rcases Except.ok.inj (readLines_hintedTree.symm.trans hread)
      have htoken : ∀ token ∈ ["[UNK]", "<p>", "[PAD]", "<c>"],
          token ∈ t.vocabulary.tokens.toList := fun token => hfilled.tokens.mem_iff.2
      have hpad : hinted .pad = some "<p>" := (Hints.hinted_iff.1 (hhinted .pad)).symm
      have hbos : hinted .bos = some "<c>" := (Hints.hinted_iff.1 (hhinted .bos)).symm
      have heos : hinted .eos = none := (Hints.hinted_iff.1 (hhinted .eos)).symm
      refine ⟨t, ht, ?_, ?_, ?_⟩
      · exact hfilled.first .pad nofun (Sources.candidates_of_hinted rfl hpad)
          (htoken "<p>" (by decide))
      · exact hfilled.first .bos nofun (Sources.candidates_of_hinted rfl hbos)
          (htoken "<c>" (by decide))
      · refine (hfilled.empty_iff .eos nofun).2 ?_
        unfold Sources.candidates
        rw [heos]
        decide
  · rcases exists_load_templateText with ⟨t, ht, -, -, -, -, hcls, hsep⟩
    rcases (load_slots (FileTree.locate_holding templateText) (by decide)
      (some (Config.uncapped true)) none).1 t ht with
      ⟨options, tokens, sources, hinted, _, hstated, _, hfilled⟩
    cases hstated with
    | descriptor hread hstates =>
      rcases Except.ok.inj ((FileTree.readDocument_holding parse_templateText).symm.trans hread)
      have htoken : ∀ {token n}, t.vocabulary.get? token = some n →
          token ∈ t.vocabulary.tokens.toList :=
        fun h => Vocabulary.get?_ne_none_iff.1 (Option.ne_none_iff_exists'.2 ⟨_, h⟩)
      refine ⟨t, ht, ?_, ?_⟩
      · have hbos := (hstates.named _ _).2 names_templateDocument.1
        rw [← hcls]
        exact (hfilled.first .bos nofun (Sources.candidates_of_named hbos) (htoken hcls)).2
      · have heos := (hstates.named _ _).2 names_templateDocument.2
        rw [← hsep]
        exact (hfilled.first .eos nofun (Sources.candidates_of_named heos) (htoken hsep)).2
  · have hlocate : Layout.locate unhintedTree FileTree.home = .ok (FileTree.home, .tokenList) :=
      rfl
    have hhinted : ∀ slot, Hints.Hinted (.obj []) (.obj []) slot none := by
      intro slot
      rw [Hints.hinted_iff]
      cases slot <;> rfl
    exact (load_slots hlocate (by decide) none none).2 _ _ _ _ ⟨rfl, rfl⟩
      (.tokenList readLines_unhintedTree) hhinted rfl (by decide)

end Tokenizer

end Subword
