import Subword.Proofs.Descriptor.Flattening
import Subword.Proofs.Directory.Selection
import Subword.Proofs.Directory.Splitting

/-!
# Descriptors with their components put differently

A tokenizer that is loaded from a descriptor does not show how the components of
the descriptor nest. The document may be another one with the same components,
as long as the other files that loading looks at stay as they are.

## Theorems

* `Tokenizer.load_of_rearranged`: A rearranged descriptor is the same tokenizer.
* `Tokenizer.load_rearranged`: Flattening comes to an end, and only its result counts.
-/

namespace Subword

open Layout Layout.Artifacts

variable {tree other : FileTree} {root place : FilePath}

/-- The artifacts of a descriptor. -/
def Layout.Artifacts.ofDescriptor : Artifacts := ⟨.descriptor, [descriptorFile]⟩

/-- No file of the directory itself is the descriptor of the inner one. -/
theorem FilePath.child_child_ne (directory : FilePath) (inner name file : String) :
    directory.child file ≠ (directory.child inner).child name := by
  intro h
  have hlength := congrArg (fun path => path.parts.length) h
  simp only [child, List.length_append, List.length_singleton] at hlength
  omega

namespace Tokenizer

/-- A descriptor is selected where it can be read, if the rest of what is watched is the same. -/
theorem selected_descriptor {document : Json}
    (hselected : Selected tree root place ofDescriptor)
    (hread : other.readDocument (place.child descriptorFile) = .ok document)
    (hsame : ∀ path ∈ ofDescriptor.watched root place, path ≠ place.child descriptorFile →
      other.file? path = tree.file? path) : Selected other root place ofDescriptor := by
  refine hselected.of_standIn ?_ ?_ ?_
  · rw [standIn, ofDescriptor, List.all_cons, List.all_nil, Bool.and_true]
    obtain ⟨text, htext, -⟩ := bind_eq_ok_iff.1 hread
    exact FileTree.isFile_of_readText htext
  · exact fun b hb => absurd hb List.not_mem_nil
  · intro hne b hb
    cases hselected with
    | root hfirst => exact absurd rfl hne
    | inner hnone hfirst =>
      rw [← hnone b hb]
      refine standIn_congr fun file hfile => hsame _ ?_ (FilePath.child_child_ne root _ _ file)
      refine List.mem_append_right _ ?_
      rw [if_neg hne]
      exact List.mem_map_of_mem (List.mem_flatMap.2 ⟨b, hb, hfile⟩)

/-- A descriptor whose components are put differently is the same tokenizer. -/
theorem load_of_rearranged [PieceLibrary] {document rearranged : Json}
    (hlocate : locate tree root = .ok (place, .descriptor))
    (hdocument : tree.readDocument (place.child descriptorFile) = .ok document)
    (hread : other.readDocument (place.child descriptorFile) = .ok rearranged)
    (h : Descriptor.Rearranged document rearranged)
    (hsame : ∀ path ∈ ofDescriptor.watched root place, path ≠ place.child descriptorFile →
      other.file? path = tree.file? path) (config : Option Config)
    (choice : Option PolicyChoice) :
    load other root config choice = load tree root config choice := by
  obtain ⟨a, ha, hselected⟩ := locate_eq_ok_iff.1 hlocate
  have hdescriptor : ∀ b ∈ all, b.layout = .descriptor → b = ofDescriptor := by decide
  obtain rfl := hdescriptor a hselected.firstIn.mem ha
  have hother := selected_descriptor hselected hread hsame
  refine load_congr hlocate (locate_eq_ok_iff.2 ⟨ofDescriptor, rfl, hother⟩) ?_ ?_ config choice
  · refine Hints.read_congr fun file hfile => hsame _ ?_ ?_
    · exact List.mem_append_left _ (List.mem_map_of_mem (List.mem_append_right _ hfile))
    · intro heq
      have hname : ∀ name ∈ Hints.files, name ≠ descriptorFile := by decide
      exact hname file hfile (List.singleton_inj.1 (List.append_cancel_left
        (FilePath.mk.inj heq)))
  · intro hints config
    show loadDescriptor _ _ _ _ = loadDescriptor _ _ _ _
    unfold loadDescriptor
    dsimp only
    rw [hdocument, hread]
    show (Descriptor.ofJson rearranged _ >>= _) = Descriptor.ofJson document _ >>= _
    rw [h.ofJson_eq]

/-- Flattening comes to an end on every node, with the components that it has or, only if it is not
    well-formed, without them. Only they count for what a descriptor says, and so for the tokenizer
    that is loaded from it. -/
theorem load_rearranged [PieceLibrary] :
    (∀ node components, Component.Flattens node components ↔
      Component.flatten node = .ok components) ∧
    (∀ node, (∃ components, Component.Flattens node components) ∨
      ¬ Component.WellFormed node ∧ ∃ stop, Component.flatten node = .error stop) ∧
    (∀ document rearranged, Descriptor.Rearranged document rearranged → ∀ place,
      Descriptor.ofJson rearranged place = Descriptor.ofJson document place) ∧
    ∀ tree other root place document rearranged,
      locate tree root = .ok (place, .descriptor) →
      tree.readDocument (place.child descriptorFile) = .ok document →
      other.readDocument (place.child descriptorFile) = .ok rearranged →
      Descriptor.Rearranged document rearranged →
      (∀ path ∈ ofDescriptor.watched root place, path ≠ place.child descriptorFile →
        other.file? path = tree.file? path) →
      ∀ config choice, load other root config choice = load tree root config choice :=
  ⟨fun _ _ => Component.flattens_iff, Component.flattens_or_stop, fun _ _ h => h.ofJson_eq,
    fun _ _ _ _ _ _ hlocate hdocument hread h hsame =>
      load_of_rearranged hlocate hdocument hread h hsame⟩

/-! ## A component two sequences deep -/

/-- The text of a descriptor that splits at a letter, where the component is in a sequence in a
    sequence, beside a number, and another field has an empty sequence. -/
def nestedText : String :=
  "\x7b\"model\":\x7b\"type\":\"BPE\"," ++
  "\"vocab\":\x7b\"<unk>\":0,\"a\":1,\"b\":2,\"c\":3\x7d,\"merges\":[]\x7d," ++
  "\"normalizer\":\x7b\"type\":\"Sequence\"\x7d," ++
  "\"pre_tokenizer\":\x7b\"type\":\"Sequence\",\"processors\":[7,\x7b\"type\":\"Sequence\"," ++
  "\"decoders\":[\x7b\"type\":\"Split\",\"pattern\":\x7b\"Regex\":\"b\"\x7d," ++
  "\"behavior\":\"Isolated\"\x7d]\x7d]\x7d\x7d"

/-- The document in that text. -/
def nestedDocument : Json :=
  .obj [("model", isolatingModel), ("normalizer", .obj [("type", .str "Sequence")]),
    ("pre_tokenizer", .obj [("type", .str "Sequence"), ("processors", .arr [.int 7,
      .obj [("type", .str "Sequence"), ("decoders", .arr [isolatingSplit])]])])]

set_option maxRecDepth 40000 in
theorem parse_nestedText : Json.parse nestedText = .ok nestedDocument := by
  have hparse : Json.parse nestedText = .ok (.obj (Json.mergeFields [
      ("model", .obj (Json.mergeFields [("type", .str "BPE"),
        ("vocab", .obj (Json.mergeFields isolatingTable)), ("merges", .arr [])])),
      ("normalizer", .obj (Json.mergeFields [("type", .str "Sequence")])),
      ("pre_tokenizer", .obj (Json.mergeFields [("type", .str "Sequence"),
        ("processors", .arr [.int 7, .obj (Json.mergeFields [("type", .str "Sequence"),
          ("decoders", .arr [.obj (Json.mergeFields [("type", .str "Split"),
            ("pattern", .obj (Json.mergeFields [("Regex", .str "b")])),
            ("behavior", .str "Isolated")])])])])]))])) := rfl
  rw [hparse, Json.mergeFields_of_nodup isolatingTable (by decide),
    Json.mergeFields_of_nodup [("Regex", _)] (List.nodup_singleton "Regex"),
    Json.mergeFields_of_nodup [("type", _), ("vocab", _), ("merges", _)] (by decide),
    Json.mergeFields_of_nodup [("type", _), ("pattern", _), ("behavior", _)] (by decide),
    Json.mergeFields_of_nodup [("type", _), ("decoders", _)] (by decide),
    Json.mergeFields_of_nodup [("type", _)] (List.nodup_singleton "type"),
    Json.mergeFields_of_nodup [("type", _), ("processors", _)] (by decide),
    Json.mergeFields_of_nodup [("model", _), ("normalizer", _), ("pre_tokenizer", _)] (by decide)]
  rfl

theorem rearranged_nestedDocument :
    Descriptor.Rearranged isolatingDocument nestedDocument where
  isObject := rfl
  same key hkey := by
    simp only [Descriptor.nodeFields, List.mem_cons, List.not_mem_nil, or_false, not_or] at hkey
    by_cases hmodel : key = "model"
    · rw [hmodel]
      rfl
    · have hne : ∀ {name}, key ≠ name → (key == name) = false := beq_eq_false_iff_ne.2
      simp only [nestedDocument, isolatingDocument, Json.get?, List.lookup_cons, hne hmodel,
        hne hkey.1, hne hkey.2.1]
  components key hkey := by
    refine Or.inr ⟨Component.leaves (isolatingDocument.get key), ?_⟩
    rw [Component.flattens_iff, Component.flattens_iff]
    simp only [Descriptor.nodeFields, List.mem_cons, List.not_mem_nil, or_false] at hkey
    obtain rfl | rfl | rfl := hkey <;> exact ⟨rfl, rfl⟩

/-- The component is found, and the same tokenizer is loaded. -/
theorem load_rearranged_of_nested :
    (∃ t, (load (FileTree.holding isolatingText) FileTree.home
      (some (Config.uncapped true))).result = .ok t) ∧
    load (FileTree.holding nestedText) FileTree.home (some (Config.uncapped true))
      = load (FileTree.holding isolatingText) FileTree.home (some (Config.uncapped true)) := by
  obtain ⟨t, _, hload, _⟩ := exists_load_isolatingText
  obtain ⟨-, -, -, hsame⟩ := load_rearranged
  have hwatched : ∀ path ∈ ofDescriptor.watched FileTree.home FileTree.home,
      path ≠ FileTree.descriptorPath →
      (FileTree.holding nestedText).file? path = (FileTree.holding isolatingText).file? path := by
    decide
  exact ⟨⟨t, hload⟩, hsame (FileTree.holding isolatingText) (FileTree.holding nestedText)
    FileTree.home FileTree.home isolatingDocument nestedDocument
    (FileTree.locate_holding isolatingText) (FileTree.readDocument_holding parse_isolatingText)
    (FileTree.readDocument_holding parse_nestedText) rearranged_nestedDocument hwatched _ none⟩

end Tokenizer

end Subword
