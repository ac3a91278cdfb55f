import Subword.Proofs.Descriptor.Template
import Subword.Proofs.Directory.Document
import Subword.Proofs.Directory.Loading
import Subword.Proofs.Tokenizer

/-!
# What goes around a text

The tokens that the template of a document puts around a sequence become those
for the start and the end of a vocabulary, by way of their names: each is the
first candidate for its slot, so it is found there when it is a token at all. A
side on which the template has no token stays free even when the vocabulary has
a token that is usual there.

There is one slot for the start and one for the end. The tokens of a template
that have no slot do not come back when a text is encoded.

## Theorems

* `Descriptor.Loaded.inSlot_of_named`: A named token that is there goes into its slot.
* `Descriptor.Loaded.startIds_eq`, `Descriptor.Loaded.endIds_eq`: What goes around a text.
* `Tokenizer.load_template`: The ids of a text under a template.
* `Tokenizer.load_template_of_two`: A template with two tokens in front does not give both.
-/

namespace Subword

namespace Descriptor

variable {d : Descriptor} {hints : Hints} {t : Tokenizer Float} {config : Config}

/-- A named token that is there goes into its slot, whatever else is tried. -/
theorem Loaded.inSlot_of_named (h : Loaded d hints t) {slot : Slot} (hslot : slot ≠ .unk)
    {name : String} {id : Nat} (hnamed : d.named slot = some name)
    (hid : t.vocabulary.get? name = some id) : t.vocabulary.special.inSlot slot = some id := by
  rcases h.vocabulary with ⟨entries, ids, wishes, _, _, hv, family, hwishes⟩
  have hgranted := (Vocabulary.represents_of_ofMapping hv).special.slots slot
  have hcandidates : ∃ rest, hints.candidates family d.named slot = name :: rest := by
    unfold Hints.candidates
    rw [hnamed]
    exact ⟨_, rfl⟩
  rcases hcandidates with ⟨rest, hrest⟩
  rw [hwishes slot hslot, hrest] at hgranted
  exact hgranted.unique (Vocabulary.granted_cons hid rest)

section

variable {start finish : Option String}

/-- What goes around a text on one side is the named token, if one is named. -/
theorem Loaded.side_eq (h : Loaded d hints t) {slot : Slot} (hslot : slot ≠ .unk)
    {name : Option String} (hnamed : d.named slot = name)
    (hpresent : ∀ token, name = some token → ∃ id, t.vocabulary.get? token = some id) :
    (if (true && !(Wrapping.nameValue name).isNull) = true
      then (t.vocabulary.special.inSlot slot).toList else [])
      = (name.map t.vocabulary.lookup).toList := by
  cases name with
  | none => rfl
  | some token =>
    rcases hpresent token rfl with ⟨id, hid⟩
    rw [h.inSlot_of_named hslot hnamed hid, Option.map_some, Vocabulary.lookup, hid]
    rfl

theorem Loaded.startIds_eq (h : Loaded d hints t)
    (hwrapping : d.wrapping = some ⟨Wrapping.nameValue start, Wrapping.nameValue finish⟩)
    (hstart : ∀ name, start = some name → ∃ id, t.vocabulary.get? name = some id)
    (hadd : config.addSpecial = true) :
    t.startIds config = (start.map t.vocabulary.lookup).toList := by
  rcases h.ends with ⟨usual, hends⟩
  rw [addEnds, hwrapping] at hends
  have hadds : t.addStart = !(Wrapping.nameValue start).isNull := congrArg Prod.fst hends
  have hnamed : d.named .bos = start := by
    rw [named, hwrapping]
    cases start <;> rfl
  rw [Tokenizer.startIds, hadd, hadds]
  exact h.side_eq (by decide) hnamed hstart

theorem Loaded.endIds_eq (h : Loaded d hints t)
    (hwrapping : d.wrapping = some ⟨Wrapping.nameValue start, Wrapping.nameValue finish⟩)
    (hfinish : ∀ name, finish = some name → ∃ id, t.vocabulary.get? name = some id)
    (hadd : config.addSpecial = true) :
    t.endIds config = (finish.map t.vocabulary.lookup).toList := by
  rcases h.ends with ⟨usual, hends⟩
  rw [addEnds, hwrapping] at hends
  have hadds : t.addEnd = !(Wrapping.nameValue finish).isNull := congrArg Prod.snd hends
  have hnamed : d.named .eos = finish := by
    rw [named, hwrapping]
    cases finish <;> rfl
  rw [Tokenizer.endIds, hadd, hadds]
  exact h.side_eq (by decide) hnamed hfinish

/-- The wrapping of a descriptor whose document has a template. -/
theorem wrapping_of_template {document : Json} {place : Option String} {front back : List String}
    (hd : (ofJson document place).result = .ok d) (h : document.HasTemplate front back) :
    d.wrapping = some ⟨Wrapping.nameValue front.getLast?,
      Wrapping.nameValue (Wrapping.nearestEnd back)⟩ := by
  rcases ofJson_eq_ok hd with ⟨added, -, -, rfl⟩
  exact Wrapping.ofComponents?_template h

end

end Descriptor

namespace Tokenizer

/-- Under the template of a document and without a cap, the ids of a text are those of its tokens
    between that of the last token in front of the sequence and that of the nearest one behind it,
    if there are such tokens. Tokenizing succeeds where no special tokens are looked for. -/
theorem load_template [PieceLibrary] {tree : FileTree} {directory root : FilePath}
    {config : Option Config} {choice : Option PolicyChoice} {t : Tokenizer Float}
    {document : Json} {front back : List String}
    (hlayout : Layout.locate tree directory = .ok (root, .descriptor))
    (hload : (load tree directory config choice).result = .ok t)
    (hdocument : tree.readDocument (root.child Layout.descriptorFile) = .ok document)
    (htemplate : document.HasTemplate front back)
    (hnames : ∀ name ∈ front ++ back, ∃ id, t.vocabulary.get? name = some id)
    (text : String) (options : Option Config) (policy : Option SpecialPolicy)
    (hadd : (options.getD t.config).addSpecial = true)
    (hcap : (options.getD t.config).cap = none) :
    (policy.or t.policy = none ∨ policy.or t.policy = some .none →
      ∃ tokens, (t.tokenize text options policy).result = .ok tokens) ∧
      ∀ tokens, (t.tokenize text options policy).result = .ok tokens →
        ∃ encoded, (t.encode text options policy).result = .ok encoded ∧
          encoded.ids = (front.getLast?.map t.vocabulary.lookup).toList
            ++ tokens.map t.vocabulary.lookup
            ++ ((Wrapping.nearestEnd back).map t.vocabulary.lookup).toList := by
  rcases load_eq_ok hlayout hload with ⟨found, d, hints, plain, chosen, hfound, hd, hloaded, rfl⟩
  rw [hdocument, Except.ok.injEq] at hfound
  subst hfound
  have hwrapping := Descriptor.wrapping_of_template hd htemplate
  have hstart : ∀ name, front.getLast? = some name → ∃ id, plain.vocabulary.get? name = some id :=
    fun name hname => hnames name (List.mem_append_left back (List.mem_of_getLast? hname))
  have hfinish : ∀ name, Wrapping.nearestEnd back = some name →
      ∃ id, plain.vocabulary.get? name = some id :=
    fun name hname => hnames name (List.mem_append_right front (Wrapping.mem_of_nearestEnd hname))
  refine ⟨?_, ?_⟩
  · exact fun hpolicy => ⟨_, result_tokenize_plain hpolicy text options⟩
  · intro tokens htokens
    rw [result_encode_tokens text policy hcap, htokens]
    refine ⟨_, rfl, ?_⟩
    -- A policy has no say in what goes around a text.
    have hfront := hloaded.startIds_eq hwrapping hstart hadd
    have hback := hloaded.endIds_eq hwrapping hfinish hadd
    show plain.startIds _ ++ _ ++ plain.endIds _ = _
    rw [hfront, hback]
    rfl

/-! ## A template with two tokens in front -/

/-- A template that puts two tokens in front of the sequence and one behind it. -/
def templateText : String :=
  "\x7b\"model\":\x7b\"type\":\"WordPiece\"," ++
  "\"vocab\":\x7b\"[UNK]\":0,\"[CLS]\":1,\"[SEP]\":2,\"<a>\":3\x7d\x7d," ++
  "\"post_processor\":\x7b\"type\":\"TemplateProcessing\",\"single\":[" ++
  "\x7b\"SpecialToken\":\x7b\"id\":\"<a>\"\x7d\x7d," ++
  "\x7b\"SpecialToken\":\x7b\"id\":\"[CLS]\"\x7d\x7d," ++
  "\x7b\"Sequence\":\x7b\x7d\x7d,\x7b\"SpecialToken\":\x7b\"id\":\"[SEP]\"\x7d\x7d]\x7d\x7d"

/-- The table of ids in that text. -/
def templateTable : List (String × Json) :=
  [("[UNK]", .int 0), ("[CLS]", .int 1), ("[SEP]", .int 2), ("<a>", .int 3)]

/-- The model in that text. -/
def templateModel : Json := .obj [("type", .str "WordPiece"), ("vocab", .obj templateTable)]

/-- An item of the template that puts a token. -/
def templateItem (name : String) : Json := .obj [("SpecialToken", .obj [("id", .str name)])]

/-- The template in that text. -/
def templateProcessor : Json := .obj [("type", .str "TemplateProcessing"),
  ("single", .arr [templateItem "<a>", templateItem "[CLS]", .obj [("Sequence", .obj [])],
    templateItem "[SEP]"])]

/-- The document in that text. -/
def templateDocument : Json :=
  .obj [("model", templateModel), ("post_processor", templateProcessor)]

set_option maxRecDepth 20000 in
theorem parse_templateText : Json.parse templateText = .ok templateDocument := by
  have hitem : ∀ name : String, Json.obj (Json.mergeFields [("SpecialToken",
      .obj (Json.mergeFields [("id", .str name)]))]) = templateItem name := by
    intro name
    rw [Json.mergeFields_of_nodup [("id", _)] (List.nodup_singleton "id"),
      Json.mergeFields_of_nodup [("SpecialToken", _)] (List.nodup_singleton "SpecialToken")]
    rfl
  have hparse : Json.parse templateText = .ok (.obj (Json.mergeFields [
      ("model", .obj (Json.mergeFields [("type", .str "WordPiece"),
        ("vocab", .obj (Json.mergeFields templateTable))])),
      ("post_processor", .obj (Json.mergeFields [("type", .str "TemplateProcessing"),
        ("single", .arr [
          .obj (Json.mergeFields [("SpecialToken", .obj (Json.mergeFields [("id", .str "<a>")]))]),
          .obj (Json.mergeFields
            [("SpecialToken", .obj (Json.mergeFields [("id", .str "[CLS]")]))]),
          .obj (Json.mergeFields [("Sequence", .obj (Json.mergeFields []))]),
          .obj (Json.mergeFields
            [("SpecialToken", .obj (Json.mergeFields [("id", .str "[SEP]")]))])])]))])) := rfl
  rw [hparse, hitem, hitem, hitem, Json.mergeFields_of_nodup templateTable (by decide),
    Json.mergeFields_of_nodup [] List.nodup_nil,
    Json.mergeFields_of_nodup [("Sequence", _)] (List.nodup_singleton "Sequence"),
    Json.mergeFields_of_nodup [("type", _), ("vocab", _)] (by decide),
    Json.mergeFields_of_nodup [("type", _), ("single", _)] (by decide),
    Json.mergeFields_of_nodup [("model", _), ("post_processor", _)] (by decide)]
  rfl

/-- The descriptor in that document. -/
def templateDescriptor : Descriptor := Descriptor.assemble templateDocument templateModel []

theorem hasTemplate_templateDocument :
    templateDocument.HasTemplate ["<a>", "[CLS]"] ["[SEP]"] := by
  have hputs : ∀ name, (templateItem name).PutsToken name := by
    intro name
    have hother : "Sequence" ≠ "SpecialToken" := by decide
    exact ⟨_, .obj [("id", .str name)], rfl, fun h => hother (List.mem_singleton.1 h), rfl, rfl⟩
  refine ⟨[], templateProcessor, [], [templateItem "<a>", templateItem "[CLS]"],
    .obj [("Sequence", .obj [])], [templateItem "[SEP]"], rfl, ?_, rfl, rfl, ?_, ?_, ?_⟩
  · intro component hcomponent
    exact absurd hcomponent List.not_mem_nil
  · exact .cons (hputs _) (.cons (hputs _) .nil)
  · exact ⟨_, rfl, List.mem_singleton.2 rfl⟩
  · exact .cons (hputs _) .nil

/-- The document is loaded, and its tokens have the ids in its table. -/
theorem exists_load_templateText : ∃ t, (load (FileTree.holding templateText) FileTree.home
      (some (Config.uncapped true))).result = .ok t ∧
    Descriptor.Loaded templateDescriptor Hints.silent t ∧ t.config = Config.uncapped true ∧
    t.policy = none ∧ t.vocabulary.get? "<a>" = some 3 ∧ t.vocabulary.get? "[CLS]" = some 1 ∧
    t.vocabulary.get? "[SEP]" = some 2 := by
  have hd : (Descriptor.ofJson templateDocument (some FileTree.descriptorPath.toString)).result
      = .ok templateDescriptor := rfl
  have hids : templateDescriptor.tokenIds = .ok templateTable := rfl
  have hacceptable : Vocabulary.Acceptable templateTable
      (Hints.silent.wishes .wordPiece templateDescriptor.named) templateDescriptor.extra := by
    refine Descriptor.acceptable_of_table (by decide) (List.Perm.refl _) ?_ ?_
    · intro asked hasked
      exact absurd hasked List.not_mem_nil
    · exact ⟨"[UNK]", by decide, by decide⟩
  rcases Vocabulary.exists_ofMapping hacceptable with ⟨v, hv⟩
  have hrepresents := Vocabulary.represents_of_ofMapping hv
  have hload : (templateDescriptor.load FileTree.descriptorPath Hints.silent
      (some (Config.uncapped true))).result = .ok (ofWordPiece v (Config.uncapped true)
        (templateDescriptor.addEnds Hints.silent true).1
        (templateDescriptor.addEnds Hints.silent true).2 templateDescriptor.wordPiece) :=
    Descriptor.result_loadWordPiece hids hv
  refine ⟨_, ?_, Descriptor.load_loaded hload, rfl, rfl, ?_, ?_, ?_⟩
  · rw [result_load_holding parse_templateText hd]
    exact hload
  · exact (hrepresents.get?_iff "<a>" 3).2 (by simp [templateTable])
  · exact (hrepresents.get?_iff "[CLS]" 1).2 (by simp [templateTable])
  · exact (hrepresents.get?_iff "[SEP]" 2).2 (by simp [templateTable])

/-- All tokens of the template are tokens of a vocabulary that has the three. -/
theorem get?_of_mem_template {v : Vocabulary} (ha : v.get? "<a>" = some 3)
    (hcls : v.get? "[CLS]" = some 1) (hsep : v.get? "[SEP]" = some 2) :
    ∀ name ∈ ["<a>", "[CLS]"] ++ ["[SEP]"], ∃ id, v.get? name = some id := by
  intro name hname
  simp only [List.cons_append, List.nil_append, List.mem_cons, List.not_mem_nil, or_false] at hname
  rcases hname with rfl | rfl | rfl
  · exact ⟨3, ha⟩
  · exact ⟨1, hcls⟩
  · exact ⟨2, hsep⟩

/-- Of two tokens in front of the sequence, the nearest one is there. -/
theorem load_template_of_nearest : ∃ t tokens encoded,
    (load (FileTree.holding templateText) FileTree.home
      (some (Config.uncapped true))).result = .ok t ∧
    (t.tokenize "b").result = .ok tokens ∧ (t.encode "b").result = .ok encoded ∧
    encoded.ids = [1] ++ tokens.map t.vocabulary.lookup ++ [2] := by
  rcases exists_load_templateText with ⟨t, hload, _, hconfig, hpolicy, ha, hcls, hsep⟩
  rcases load_template (FileTree.locate_holding templateText) hload
      (FileTree.readDocument_holding parse_templateText) hasTemplate_templateDocument
      (get?_of_mem_template ha hcls hsep) "b" none none (congrArg Config.addSpecial hconfig)
      (congrArg Config.cap hconfig) with ⟨htokenize, hencode⟩
  rcases htokenize (Or.inl hpolicy) with ⟨tokens, htokens⟩
  rcases hencode tokens htokens with ⟨encoded, hencoded, hall⟩
  refine ⟨t, tokens, encoded, hload, htokens, hencoded, ?_⟩
  have hstart : (["<a>", "[CLS]"].getLast?.map t.vocabulary.lookup).toList = [1] := by
    show [t.vocabulary.lookup "[CLS]"] = [1]
    rw [Vocabulary.lookup, hcls]
    rfl
  have hend : ((Wrapping.nearestEnd ["[SEP]"]).map t.vocabulary.lookup).toList = [2] := by
    show [t.vocabulary.lookup "[SEP]"] = [2]
    rw [Vocabulary.lookup, hsep]
    rfl
  rw [hall, hstart, hend]

/-- Of two tokens in front of the sequence, only one is there: the ids of a text are not those of
    all tokens in front, of the tokens of the text and of all tokens behind. -/
theorem load_template_of_two : ∃ t tokens encoded,
    (load (FileTree.holding templateText) FileTree.home
      (some (Config.uncapped true))).result = .ok t ∧
    (FileTree.holding templateText).readDocument FileTree.descriptorPath = .ok templateDocument ∧
    templateDocument.HasTemplate ["<a>", "[CLS]"] ["[SEP]"] ∧
    (∀ name ∈ ["<a>", "[CLS]"] ++ ["[SEP]"], ∃ id, t.vocabulary.get? name = some id) ∧
    t.config.addSpecial = true ∧ t.config.cap = none ∧
    (t.tokenize "").result = .ok tokens ∧ (t.encode "").result = .ok encoded ∧
    encoded.ids ≠ ["<a>", "[CLS]"].map t.vocabulary.lookup ++ tokens.map t.vocabulary.lookup
      ++ ["[SEP]"].map t.vocabulary.lookup := by
  rcases exists_load_templateText with ⟨t, hload, hloaded, hconfig, hpolicy, ha, hcls, hsep⟩
  have hadd : t.config.addSpecial = true := congrArg Config.addSpecial hconfig
  have hcap : (Option.getD none t.config).cap = none := congrArg Config.cap hconfig
  have hnone : none.or t.policy = none ∨ none.or t.policy = some .none := Or.inl hpolicy
  have htokens := result_tokenize_plain hnone "" none
  have hencoded := result_encode_tokens "" none hcap
  rw [htokens] at hencoded
  refine ⟨t, _, _, hload, FileTree.readDocument_holding parse_templateText,
    hasTemplate_templateDocument, get?_of_mem_template ha hcls hsep, hadd, hcap, htokens,
    hencoded, ?_⟩
  have hwrapping : templateDescriptor.wrapping
      = some ⟨Wrapping.nameValue (some "[CLS]"), Wrapping.nameValue (some "[SEP]")⟩ := rfl
  have hstart := hloaded.startIds_eq hwrapping
    (fun _ hname => Option.some.inj hname ▸ ⟨1, hcls⟩) hadd
  have hend := hloaded.endIds_eq hwrapping
    (fun _ hname => Option.some.inj hname ▸ ⟨2, hsep⟩) hadd
  -- Two ids go around the tokens, whichever these are, and three would have to.
  intro hall
  have hcount := congrArg List.length hall
  simp only [wrap, Option.getD_none, hstart, hend, List.length_append, List.length_map,
    Option.map_some, Option.toList_some, List.length_cons, List.length_nil] at hcount
  omega

end Tokenizer

end Subword
