import Subword.Proofs.BytePair
import Subword.Proofs.Directory.Document
import Subword.Proofs.Directory.Loading
import Subword.Proofs.Regex.Search

/-!
# What a document says about splitting

Of the components that split a text at a regular expression the last one counts,
and its expression becomes the pattern of a byte pair tokenizer. What such a
component says about the text between the matches is not read: the chunks of a
text are the matches, and what stands between them has no tokens. So the chunks
make the text again exactly when the search for matches passes over nothing.

## Main definitions

* `Splitting.regexes`: The regular expressions that components split at.
* `Json.Isolates`: A document asks for the matches and for what is between them.

## Theorems

* `Splitting.pattern_ofComponents`: The last regular expression is the pattern.
* `BytePair.chunks_search`: Which parts of a text are chunks.
* `Tokenizer.load_splits`: The chunks of a tokenizer that is loaded from a document.
* `Tokenizer.load_splits_drops`: Text between matches is left out.
-/

namespace Subword

namespace Splitting

/-- The regular expression that a component splits at. -/
def regexIn? (component : Json) : Option Json :=
  if Component.isA "Split" component then (patternIn component).get? "Regex" else none

/-- The regular expressions that some components split at, in order. -/
def regexes (components : List Json) : List Json := components.filterMap regexIn?

theorem pattern_step (splitting : Splitting) (component : Json) :
    (splitting.step component).pattern = (regexIn? component).getD splitting.pattern := by
  unfold step regexIn? Component.isA
  split
  · next hsplit =>
    rw [hsplit, decide_eq_true rfl, if_pos rfl]
    cases (patternIn component).get? "Regex" <;> rfl
  -- No other type of component says anything about the pattern.
  all_goals
    next hsplit =>
    have hother : Component.type? component ≠ some "Split" := by
      intro h
      simp_all
    rw [decide_eq_false hother, if_neg Bool.false_ne_true]
    rfl

/-- The last regular expression of some components is the pattern, and if there is none it stays
    what it was. -/
theorem pattern_foldl (components : List Json) : ∀ splitting : Splitting,
    (components.foldl step splitting).pattern
      = (regexes components).getLast?.getD splitting.pattern := by
  induction components with
  | nil => exact fun splitting => rfl
  | cons component rest ih =>
    intro splitting
    rw [List.foldl_cons, ih, pattern_step, regexes, regexes]
    cases hregex : regexIn? component with
    | none => rw [List.filterMap_cons_none hregex, Option.getD_none]
    | some regex => rw [List.filterMap_cons_some hregex, List.getLast?_cons, Option.getD_some,
        Option.getD_some]

theorem pattern_ofComponents (components : List Json) :
    (ofComponents components).pattern = (regexes components).getLast?.getD .null :=
  pattern_foldl components _

end Splitting

/-- A document asks for a text to be cut at the matches of a regular expression, and for what is
    between them to be kept. -/
def Json.Isolates (document : Json) (source : String) : Prop :=
  ∃ component ∈ Component.leaves (document.get "pre_tokenizer"),
    Splitting.regexIn? component = some (.str source) ∧
      component.get "behavior" = .str "Isolated"

/-- Of the regular expressions in such a document one is the last. -/
theorem Json.Isolates.exists_last {document : Json} {source : String}
    (h : document.Isolates source) : ∃ regex, (Splitting.regexes
      (Component.leaves (document.get "pre_tokenizer"))).getLast? = some regex := by
  rcases h with ⟨component, hmem, hregex, _⟩
  have hne : Splitting.regexes (Component.leaves (document.get "pre_tokenizer")) ≠ [] :=
    List.ne_nil_of_mem (List.mem_filterMap.2 ⟨component, hmem, hregex⟩)
  exact ⟨_, List.getLast?_eq_some_getLast hne⟩

/-- Without a suffix and a space in front, the chunks of a text are what a search for the pattern
    finds in it. -/
theorem BytePair.chunks_search {b : BytePair} (hsuffix : b.suffix? = none)
    (hspace : b.addPrefixSpace = false) (s : List Char) : ∃ parts,
    Regex.Search s.length b.pattern.regex false (.ofText s) parts ∧
      Regex.Stretch.textOf parts = s ∧ b.chunks s = Regex.Stretch.allFound parts ∧
      ((b.chunks s).flatten = s ↔ ∀ x, .skipped x ∉ parts) := by
  rcases Regex.exists_search b.pattern.regex s with ⟨parts, hsearch, hfound, htext⟩
  have hchunks : b.chunks s = Regex.Stretch.allFound parts := by
    rw [chunks_eq hsuffix hspace, SplitPattern.chunks, hfound]
  refine ⟨parts, hsearch, htext, hchunks, ?_⟩
  rw [hchunks, ← Regex.Stretch.flatten_found_iff, htext]

theorem Descriptor.family?_eq_bytePair {d : Descriptor} (h : d.modelType = .str "BPE") :
    d.family? = some .bytePair := by
  rw [family?, h]
  rfl

namespace Tokenizer

/-- The pattern with a given text stands for the expression in it. -/
theorem ofSource_of_patternOf {source : String} {pattern : SplitPattern}
    (h : patternOf (some source) = .ok pattern) : SplitPattern.ofSource source = .ok pattern := by
  unfold patternOf at h
  dsimp only at h
  split at h
  · next found hfound => rw [hfound, Except.ok.inj h]
  · cases h
  · cases h

/-- The chunks of a tokenizer whose document splits at regular expressions are the matches of the
    last one, also where the document asks for what is between them. They make the text again
    exactly when nothing is between them, and the tokens of the text spell them and nothing
    else. -/
theorem load_splits [PieceLibrary] {tree : FileTree} {directory root : FilePath}
    {config : Option Config} {choice : Option PolicyChoice} {t : Tokenizer Float}
    {document : Json} {source : String}
    (hlayout : Layout.locate tree directory = .ok (root, .descriptor))
    (hload : (load tree directory config choice).result = .ok t)
    (hdocument : tree.readDocument (root.child Layout.descriptorFile) = .ok document)
    (htype : modelTypeOf (document.get "model") = .str "BPE")
    (hisolates : document.Isolates source) :
    ∃ (b : BytePair) (regex : Json), t.model = .bytePair b ∧
      (Splitting.regexes (Component.leaves (document.get "pre_tokenizer"))).getLast?
        = some regex ∧
      (∀ last, regex = .str last → SplitPattern.ofSource last = .ok b.pattern) ∧
      (b.suffix? = none → b.addPrefixSpace = false → ∀ (options : Config) (s : List Char),
        ∃ parts, Regex.Search (t.normalize options s).length b.pattern.regex false
            (.ofText (t.normalize options s)) parts ∧
          Regex.Stretch.textOf parts = t.normalize options s ∧
          b.chunks (t.normalize options s) = Regex.Stretch.allFound parts ∧
          ((b.chunks (t.normalize options s)).flatten = t.normalize options s ↔
            ∀ x, .skipped x ∉ parts) ∧
          (String.join (t.segmentTokens options (.plain s))).toList
            = b.spell (b.chunks (t.normalize options s)).flatten) := by
  rcases load_eq_ok_descriptor hlayout hload with
    ⟨found, d, hints, plain, policy, hfound, hd, hplain, rfl⟩
  rw [hdocument, Except.ok.injEq] at hfound
  subst hfound
  rcases Descriptor.ofJson_eq_ok hd with ⟨added, -, -, rfl⟩
  rcases hisolates.exists_last with ⟨regex, hlast⟩
  have hfamily : (Descriptor.assemble document (document.get "model") added).family?
      = some .bytePair := Descriptor.family?_eq_bytePair htype
  unfold Descriptor.load at hplain
  rw [hfamily] at hplain
  rcases Outcome.result_bind_eq_ok_iff.1 hplain with ⟨options, _, hplain⟩
  rcases Descriptor.loadBytePair_eq_ok hplain with
    ⟨ids, v, rules, pattern, _, _, _, hpattern, rfl⟩
  -- Of the components that split at an expression, the last one decides on the pattern.
  have hsource : (Descriptor.assemble document (document.get "model")
      added).splitting.pattern = regex := by
    show (Splitting.ofComponents _).pattern = _
    rw [Splitting.pattern_ofComponents, hlast, Option.getD_some]
  rw [hsource] at hpattern
  refine ⟨_, regex, rfl, hlast, ?_, ?_⟩
  · rintro last rfl
    exact ofSource_of_patternOf hpattern
  intro hsuffix hspace options s
  rcases BytePair.chunks_search hsuffix hspace (normalize (withPolicy _ policy) options s) with
    ⟨parts, hsearch, htext, hchunks, hwhole⟩
  exact ⟨parts, hsearch, htext, hchunks, hwhole, BytePair.join_segment_flatten hsuffix _⟩

/-! ## A pattern that matches one letter -/

/-- A descriptor that splits at a letter and asks for what is between the matches. -/
def isolatingText : String :=
  "\x7b\"model\":\x7b\"type\":\"BPE\"," ++
  "\"vocab\":\x7b\"<unk>\":0,\"a\":1,\"b\":2,\"c\":3\x7d,\"merges\":[]\x7d," ++
  "\"pre_tokenizer\":\x7b\"type\":\"Split\",\"pattern\":\x7b\"Regex\":\"b\"\x7d," ++
  "\"behavior\":\"Isolated\"\x7d\x7d"

/-- The table of ids in that text. -/
def isolatingTable : List (String × Json) :=
  [("<unk>", .int 0), ("a", .int 1), ("b", .int 2), ("c", .int 3)]

/-- The model in that text. -/
def isolatingModel : Json :=
  .obj [("type", .str "BPE"), ("vocab", .obj isolatingTable), ("merges", .arr [])]

/-- The component that splits in that text. -/
def isolatingSplit : Json :=
  .obj [("type", .str "Split"), ("pattern", .obj [("Regex", .str "b")]),
    ("behavior", .str "Isolated")]

/-- The document in that text. -/
def isolatingDocument : Json :=
  .obj [("model", isolatingModel), ("pre_tokenizer", isolatingSplit)]

set_option maxRecDepth 20000 in
theorem parse_isolatingText : Json.parse isolatingText = .ok isolatingDocument := by
  have hparse : Json.parse isolatingText = .ok (.obj (Json.mergeFields [
      ("model", .obj (Json.mergeFields [("type", .str "BPE"),
        ("vocab", .obj (Json.mergeFields isolatingTable)), ("merges", .arr [])])),
      ("pre_tokenizer", .obj (Json.mergeFields [("type", .str "Split"),
        ("pattern", .obj (Json.mergeFields [("Regex", .str "b")])),
        ("behavior", .str "Isolated")]))])) := rfl
  rw [hparse, Json.mergeFields_of_nodup isolatingTable (by decide),
    Json.mergeFields_of_nodup [("Regex", _)] (List.nodup_singleton "Regex"),
    Json.mergeFields_of_nodup [("type", _), ("vocab", _), ("merges", _)] (by decide),
    Json.mergeFields_of_nodup [("type", _), ("pattern", _), ("behavior", _)] (by decide),
    Json.mergeFields_of_nodup [("model", _), ("pre_tokenizer", _)] (by decide)]
  rfl

/-- The descriptor in that document. -/
def isolatingDescriptor : Descriptor := Descriptor.assemble isolatingDocument isolatingModel []

theorem isolates_isolatingDocument : isolatingDocument.Isolates "b" := by
  have hleaves : Component.leaves (isolatingDocument.get "pre_tokenizer") = [isolatingSplit] := rfl
  refine ⟨isolatingSplit, ?_, rfl, rfl⟩
  rw [hleaves]
  exact List.mem_singleton_self _

theorem regexes_isolatingDocument :
    Splitting.regexes (Component.leaves (isolatingDocument.get "pre_tokenizer"))
      = [.str "b"] := rfl

/-- The pattern in that document. -/
def isolatingPattern : SplitPattern := ⟨"b", .one false (.char 'b')⟩

theorem ofSource_isolatingPattern : SplitPattern.ofSource "b" = .ok isolatingPattern := by
  have hread : (Regex.read "b").toOption = some isolatingPattern.regex := by decide +kernel
  unfold SplitPattern.ofSource
  cases hregex : Regex.read "b" with
  | error fault =>
    rw [hregex] at hread
    cases hread
  | ok regex =>
    rw [hregex] at hread
    rw [Except.map, Option.some.inj hread]
    rfl

/-- The document is loaded, without a suffix, and without a space in front. -/
theorem exists_load_isolatingText : ∃ (t : Tokenizer Float) (b : BytePair),
    (load (FileTree.holding isolatingText) FileTree.home
      (some (Config.uncapped true))).result = .ok t ∧
    t.model = .bytePair b ∧ b.pattern = isolatingPattern ∧ b.suffix? = none ∧
    b.addPrefixSpace = false ∧ t.config = Config.uncapped true := by
  have hd : (Descriptor.ofJson isolatingDocument (some FileTree.descriptorPath.toString)).result
      = .ok isolatingDescriptor := rfl
  have hids : isolatingDescriptor.tokenIds = .ok isolatingTable := rfl
  have hrules : isolatingDescriptor.rules = .ok ⟨.empty⟩ := rfl
  have hpattern : patternOf isolatingDescriptor.splitting.pattern.str? = .ok isolatingPattern := by
    show patternOf (some "b") = _
    rw [patternOf, ofSource_isolatingPattern]
  have hacceptable : Vocabulary.Acceptable isolatingTable
      (Hints.silent.wishes .bytePair isolatingDescriptor.named) isolatingDescriptor.extra := by
    refine Descriptor.acceptable_of_table (by decide) (List.Perm.refl _) ?_ ?_
    · intro asked hasked
      exact absurd hasked List.not_mem_nil
    · exact ⟨"<unk>", by decide, by decide⟩
  rcases Vocabulary.exists_ofMapping hacceptable with ⟨v, hv⟩
  have hload : (isolatingDescriptor.load FileTree.descriptorPath Hints.silent
      (some (Config.uncapped true))).result = .ok _ :=
    Descriptor.result_loadBytePair hids hv hrules hpattern
  have hwhole := (result_load_holding parse_isolatingText hd _).trans hload
  exact ⟨_, _, hwhole, rfl, rfl, rfl, rfl, rfl⟩

/-- The pattern is found in the document, and the chunks of a text are what a search for it
    finds. -/
theorem load_splits_of_letter : ∃ (t : Tokenizer Float) (b : BytePair),
    (load (FileTree.holding isolatingText) FileTree.home
      (some (Config.uncapped true))).result = .ok t ∧
    t.model = .bytePair b ∧ SplitPattern.ofSource "b" = .ok b.pattern ∧
    ∃ parts, Regex.Search 3 b.pattern.regex false (.ofText "abc".toList) parts ∧
      b.chunks "abc".toList = Regex.Stretch.allFound parts ∧
      (String.join (t.segmentTokens t.config (.plain "abc".toList))).toList
        = b.spell (b.chunks "abc".toList).flatten := by
  rcases exists_load_isolatingText with ⟨t, b, hload, hmodel, hpattern, hsuffix, hspace, hconfig⟩
  rcases load_splits (FileTree.locate_holding isolatingText) hload
      (FileTree.readDocument_holding parse_isolatingText) rfl isolates_isolatingDocument with
    ⟨found, regex, hfound, hlast, hsource, hchunks⟩
  rw [hmodel, Model.bytePair.injEq] at hfound
  subst hfound
  rw [regexes_isolatingDocument] at hlast
  have hregex : regex = .str "b" := (Option.some.inj hlast).symm
  have hnormal : t.normalize t.config "abc".toList = "abc".toList := by
    rw [normalize, hmodel, hconfig]
    rfl
  rcases hchunks hsuffix hspace t.config "abc".toList with
    ⟨parts, hsearch, _, hparts, _, htokens⟩
  rw [hnormal] at hsearch hparts htokens
  exact ⟨t, b, hload, hmodel, hsource "b" hregex, parts, hsearch, hparts, htokens⟩

/-- What is between the matches is left out: the only chunk is the match. -/
theorem load_splits_drops : ∃ (t : Tokenizer Float) (b : BytePair),
    (load (FileTree.holding isolatingText) FileTree.home
      (some (Config.uncapped true))).result = .ok t ∧
    (FileTree.holding isolatingText).readDocument FileTree.descriptorPath
      = .ok isolatingDocument ∧
    modelTypeOf (isolatingDocument.get "model") = .str "BPE" ∧ isolatingDocument.Isolates "b" ∧
    t.model = .bytePair b ∧ b.suffix? = none ∧ b.addPrefixSpace = false ∧
    b.chunks (t.normalize t.config "abc".toList) = [['b']] ∧
    (b.chunks (t.normalize t.config "abc".toList)).flatten
      ≠ t.normalize t.config "abc".toList := by
  rcases exists_load_isolatingText with ⟨t, b, hload, hmodel, hpattern, hsuffix, hspace, hconfig⟩
  have hnormal : t.normalize t.config "abc".toList = "abc".toList := by
    rw [normalize, hmodel, hconfig]
    rfl
  have hchunks : b.chunks "abc".toList = [['b']] := by
    rw [BytePair.chunks_eq hsuffix hspace, hpattern]
    decide +kernel
  refine ⟨t, b, hload, FileTree.readDocument_holding parse_isolatingText, rfl,
    isolates_isolatingDocument, hmodel, hsuffix, hspace, ?_, ?_⟩
  · rw [hnormal, hchunks]
  · rw [hnormal, hchunks]
    decide

end Tokenizer

end Subword
