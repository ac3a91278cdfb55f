import Subword.Proofs.Directory.Slots

/-!
# What loading looks at

Which files make up a tokenizer is settled by one list: artifacts, each with the
files that all have to be there, in the order in which they are looked for. The
three names of a piece model are three entries of the list. Detection takes the
first entry whose files are there, and looks into the inner directory if there is
none.

From there on nothing is read but the files of this entry and the two documents
beside them. So two trees with the same of these load the same, or fail with the
same error, if in the other tree too no earlier entry is there to be taken first.
Entries come and go only as files: a directory with the name of a file is no
artifact, and a part of an entry is none.

## Main definitions

* `FileTree.file?`: The bytes of the file at a path.
* `Layout.Artifacts`: Files that hold a tokenizer when all of them are there.
* `Layout.Artifacts.Selected`: The artifacts that a tokenizer is loaded from, and their place.
* `Layout.Artifacts.KeptIn`: Whether another tree has the same of what is looked at.
* `Layout.Artifacts.watched`: The files that are looked at.

## Theorems

* `Layout.of?_eq_find?`: Detection takes the first artifacts that are there.
* `Layout.locate_eq_ok_iff`: What is located are the artifacts that are selected.
* `Layout.Artifacts.Selected.kept`: They are selected where what is looked at is the same.
* `Tokenizer.loadLayout_congr`: A layout is loaded from its own files.
* `Tokenizer.load_unaffected`: Loading looks at nothing else.
-/

namespace Subword

/-! ## Files -/

namespace FileTree

variable {tree other : FileTree} {path : FilePath}

/-- The bytes of the file at a path, if there is a file. -/
def file? (tree : FileTree) (path : FilePath) : Option (List UInt8) :=
  match tree.status path with
  | .file bytes => some bytes
  | _ => none

theorem file?_eq_some_iff {bytes : List UInt8} :
    tree.file? path = some bytes ↔ tree.status path = .file bytes := by
  unfold file?
  cases tree.status path <;> simp only [Option.some.injEq, Status.file.injEq, reduceCtorEq]

theorem isFile_eq_isSome : tree.isFile path = (tree.file? path).isSome := by
  unfold isFile file?
  cases tree.status path <;> rfl

/-- Where one of two trees that have the same at a path has a file, they have one status. -/
theorem status_eq_of_file? (h : other.file? path = tree.file? path)
    (hfile : tree.isFile path = true) : other.status path = tree.status path := by
  rw [isFile_eq_isSome, Option.isSome_iff_exists] at hfile
  obtain ⟨bytes, hbytes⟩ := hfile
  rw [file?_eq_some_iff.1 (h.trans hbytes), file?_eq_some_iff.1 hbytes]

/-- What is there lies in a directory. -/
theorem walk_eq_directory {name : String} (parts : List String) :
    ∀ place, tree.walk place (parts ++ [name]) ≠ .missing →
      tree.walk place (parts ++ [name]) ≠ .underFile → tree.walk place parts = .directory := by
  -- By the parts of the path. The walk to the name goes through the place where they end.
  induction parts with
  | nil =>
    intro place hmissing hunder
    rw [List.nil_append, walk] at hmissing hunder
    rw [walk]
    split at hmissing
    · next hentry => rw [hentry]
    · next hentry =>
      rw [hentry] at hunder
      exact absurd rfl hunder
    · exact absurd rfl hmissing
  | cons part rest ih =>
    intro place hmissing hunder
    rw [List.cons_append, walk] at hmissing hunder
    rw [walk]
    cases hentry : tree.entry? place.reverse with
    | none =>
      rw [hentry] at hmissing
      exact absurd rfl hmissing
    | some entry =>
      rw [hentry] at hmissing hunder
      cases entry with
      | file bytes => exact absurd rfl hunder
      | directory =>
        dsimp only at hmissing hunder ⊢
        by_cases hup : part = ".."
        · rw [if_pos hup] at hmissing hunder ⊢
          exact ih _ hmissing hunder
        · rw [if_neg hup] at hmissing hunder ⊢
          exact ih _ hmissing hunder

theorem isDirectory_of_child {name : String} (hmissing : tree.status (path.child name) ≠ .missing)
    (hunder : tree.status (path.child name) ≠ .underFile) : tree.isDirectory path = true := by
  have hdirectory : tree.status path = .directory :=
    walk_eq_directory path.parts [] hmissing hunder
  rw [isDirectory, hdirectory]

/-- A file lies in a directory. -/
theorem isDirectory_of_isFile {name : String} (h : tree.isFile (path.child name) = true) :
    tree.isDirectory path = true := by
  rw [isFile_eq_isSome, Option.isSome_iff_exists] at h
  obtain ⟨bytes, hbytes⟩ := h
  have hstatus := file?_eq_some_iff.1 hbytes
  exact isDirectory_of_child (by rw [hstatus]; exact nofun) (by rw [hstatus]; exact nofun)

/-- A directory lies in a directory. -/
theorem isDirectory_of_isDirectory {name : String}
    (h : tree.isDirectory (path.child name) = true) : tree.isDirectory path = true := by
  unfold isDirectory at h
  split at h
  · next hstatus =>
    exact isDirectory_of_child (by rw [hstatus]; exact nofun) (by rw [hstatus]; exact nofun)
  · cases h

/-! ### What is read from them -/

theorem readText_congr (h : other.status path = tree.status path) :
    other.readText path = tree.readText path := by
  unfold readText
  rw [h]

theorem readLines_congr (h : other.status path = tree.status path) :
    other.readLines path = tree.readLines path := by
  unfold readLines
  rw [readText_congr h]

theorem readDocument_congr (h : other.status path = tree.status path) :
    other.readDocument path = tree.readDocument path := by
  unfold readDocument
  rw [readText_congr h]

theorem readTokenIds_congr (h : other.status path = tree.status path) :
    other.readTokenIds path = tree.readTokenIds path := by
  unfold readTokenIds
  rw [readDocument_congr h]

theorem readRules_congr (h : other.status path = tree.status path) :
    other.readRules path = tree.readRules path := by
  unfold readRules
  rw [readText_congr h]

theorem readPieceModel_congr [PieceLibrary] (h : other.status path = tree.status path) :
    other.readPieceModel path = tree.readPieceModel path := by
  unfold readPieceModel
  rw [h]

end FileTree

namespace Hints

variable {tree other : FileTree} {place : FilePath}

/-- A document that may be missing is the same where the file is, or where none is a file. -/
theorem readOptional_congr {file : String}
    (h : other.file? (place.child file) = tree.file? (place.child file)) :
    readOptional other place file = readOptional tree place file := by
  have hfile : other.isFile (place.child file) = tree.isFile (place.child file) := by
    rw [FileTree.isFile_eq_isSome, FileTree.isFile_eq_isSome, h]
  unfold readOptional
  dsimp only
  rw [hfile]
  cases hpresent : tree.isFile (place.child file) with
  | false => rfl
  | true => rw [FileTree.readDocument_congr (FileTree.status_eq_of_file? h hpresent)]

theorem read_congr (h : ∀ file ∈ files, other.file? (place.child file)
    = tree.file? (place.child file)) : read other place = read tree place := by
  unfold read
  rw [readOptional_congr (h optionFile List.mem_cons_self),
    readOptional_congr (h tokenFile (List.mem_cons_of_mem _ List.mem_cons_self))]

end Hints

/-! ## Artifacts -/

/-- An entry that is found is the first with the property. -/
theorem find?_eq_some_iff_takeWhile {α : Type} [DecidableEq α] {p : α → Bool} {l : List α} {a : α} :
    l.find? p = some a ↔ a ∈ l ∧ p a = true ∧ ∀ b ∈ l.takeWhile (· ≠ a), p b = false := by
  induction l with
  | nil => simp only [List.find?_nil, reduceCtorEq, List.not_mem_nil, false_and]
  | cons b rest ih =>
    by_cases hab : b = a
    · subst hab
      rw [List.takeWhile_cons_of_neg (by simp)]
      constructor
      · exact fun h => ⟨List.mem_cons_self, List.find?_some h, fun _ hnone => absurd hnone
          List.not_mem_nil⟩
      · exact fun h => List.find?_cons_of_pos h.2.1
    · have hskip : (b :: rest).takeWhile (· ≠ a) = b :: rest.takeWhile (· ≠ a) :=
        List.takeWhile_cons_of_pos (decide_eq_true hab)
      rw [hskip, List.forall_mem_cons, List.mem_cons, or_iff_right (Ne.symm hab)]
      cases hb : p b with
      | true =>
        rw [List.find?_cons_of_pos hb, Option.some.injEq]
        exact ⟨fun h => absurd h hab, fun h => absurd h.2.2.1 Bool.noConfusion⟩
      | false =>
        rw [List.find?_cons_of_neg (by rw [hb]; exact Bool.false_ne_true), ih]
        simp only [true_and]

namespace Layout

/-- Files that hold a tokenizer in a layout when all of them are there. -/
structure Artifacts where
  layout : Layout
  files : List String
  deriving DecidableEq

namespace Artifacts

/-- The artifacts that are looked for, in this order. -/
def all : List Artifacts :=
  ⟨.descriptor, [descriptorFile]⟩ :: ⟨.bytePairFiles, [tokenIdFile, ruleFile]⟩ ::
    (pieceModelFiles.map fun file => ⟨.pieceModel, [file]⟩) ++ [⟨.tokenList, [tokenListFile]⟩]

/-- The artifacts that are looked for before others. -/
def earlier (a : Artifacts) : List Artifacts := all.takeWhile (· ≠ a)

/-- Whether artifacts are there in a directory. -/
def standIn (tree : FileTree) (directory : FilePath) (a : Artifacts) : Bool :=
  a.files.all fun file => tree.isFile (directory.child file)

/-- The first artifacts that are there in a directory. -/
structure FirstIn (tree : FileTree) (directory : FilePath) (a : Artifacts) : Prop where
  mem : a ∈ all
  stand : a.standIn tree directory = true
  first : ∀ b ∈ a.earlier, b.standIn tree directory = false

/-- The artifacts that a tokenizer is loaded from, and where they are: in the directory itself, or
    in the one inside it if there are none in the directory. -/
inductive Selected (tree : FileTree) (root : FilePath) : FilePath → Artifacts → Prop
  | root {a : Artifacts} (first : FirstIn tree root a) : Selected tree root root a
  | inner {a : Artifacts} (none : ∀ b ∈ all, b.standIn tree root = false)
      (first : FirstIn tree (root.child innerDirectory) a) :
      Selected tree root (root.child innerDirectory) a

/-- Whether another tree has the same of what is looked at: the files of the artifacts and the
    documents beside them. Nothing is there in it to be taken before them. -/
structure KeptIn (tree other : FileTree) (root place : FilePath) (a : Artifacts) : Prop where
  same : ∀ file ∈ a.files ++ Hints.files,
    other.file? (place.child file) = tree.file? (place.child file)
  earlier : ∀ b ∈ a.earlier, b.standIn other place = false
  root : place ≠ root → ∀ b ∈ all, b.standIn other root = false

/-- The files that are looked at for a tokenizer that is loaded from artifacts: those that would be
    selected before them, their own, and the documents beside them. -/
def watched (root place : FilePath) (a : Artifacts) : List FilePath :=
  (((a.earlier ++ [a]).flatMap files) ++ Hints.files).map place.child ++
    (if place = root then [] else (all.flatMap files).map root.child)

end Artifacts

open Artifacts

variable {tree other : FileTree} {root place : FilePath} {a : Artifacts} {layout : Layout}

/-- The piece model of a directory is found by its name. -/
theorem pieceModelIn?_eq (tree : FileTree) (directory : FilePath) :
    pieceModelIn? tree directory = (pieceModelFiles.find? fun file =>
      tree.isFile (directory.child file)).map directory.child :=
  List.find?_map ..

/-- The artifacts are tried one after the other, the piece models by their names. -/
theorem find?_all (tree : FileTree) (directory : FilePath) :
    all.find? (standIn tree directory) =
      if tree.isFile (directory.child descriptorFile) then some ⟨.descriptor, [descriptorFile]⟩
      else if tree.isFile (directory.child tokenIdFile) && tree.isFile (directory.child ruleFile)
        then some ⟨.bytePairFiles, [tokenIdFile, ruleFile]⟩
      else ((pieceModelFiles.find? fun file => tree.isFile (directory.child file)).map
          fun file => ⟨.pieceModel, [file]⟩).or
        (if tree.isFile (directory.child tokenListFile) then some ⟨.tokenList, [tokenListFile]⟩
          else none) := by
  have hpieces : (pieceModelFiles.map fun file => (⟨.pieceModel, [file]⟩ : Artifacts)).find?
      (standIn tree directory) = (pieceModelFiles.find? fun file =>
        tree.isFile (directory.child file)).map fun file => ⟨.pieceModel, [file]⟩ := by
    rw [List.find?_map]
    congr 2
    funext file
    exact Bool.and_true _
  rw [all, List.cons_append, List.find?_cons, List.cons_append, List.find?_cons,
    List.find?_append, hpieces]
  simp only [standIn, List.all_cons, List.all_nil, Bool.and_true, List.find?_cons, List.find?_nil]
  cases tree.isFile (directory.child descriptorFile) with
  | true => rfl
  | false =>
    cases (tree.isFile (directory.child tokenIdFile) && tree.isFile (directory.child ruleFile))
    · cases tree.isFile (directory.child tokenListFile) <;> rfl
    · rfl

/-- Detection takes the first artifacts that are there. -/
theorem of?_eq_find? (tree : FileTree) (directory : FilePath) :
    of? tree directory = (all.find? (standIn tree directory)).map Artifacts.layout := by
  rw [find?_all]
  unfold of?
  rw [pieceModelIn?_eq]
  dsimp only
  split
  · rfl
  · split
    · rfl
    · cases pieceModelFiles.find? fun file => tree.isFile (directory.child file) with
      | some file => rfl
      | none =>
        by_cases hlist : tree.isFile (directory.child tokenListFile) = true
        · rw [if_pos hlist, if_pos hlist]
          rfl
        · rw [if_neg hlist, if_neg hlist]
          rfl

theorem firstIn_iff_find? :
    FirstIn tree root a ↔ all.find? (standIn tree root) = some a := by
  rw [find?_eq_some_iff_takeWhile]
  exact ⟨fun h => ⟨h.mem, h.stand, h.first⟩, fun h => ⟨h.1, h.2.1, h.2.2⟩⟩

theorem of?_eq_some_iff :
    of? tree root = some layout ↔ ∃ a : Artifacts, a.layout = layout ∧ FirstIn tree root a := by
  rw [of?_eq_find?, Option.map_eq_some_iff]
  simp only [firstIn_iff_find?, and_comm]

theorem of?_eq_none_iff : of? tree root = none ↔ ∀ b ∈ all, b.standIn tree root = false := by
  rw [of?_eq_find?, Option.map_eq_none_iff, List.find?_eq_none]
  simp only [Bool.not_eq_true]

namespace Artifacts

/-- Every entry has a file, which lies in the directory where the entry is. -/
theorem FirstIn.isDirectory (h : FirstIn tree place a) : tree.isDirectory place = true := by
  obtain ⟨file, hfile⟩ : ∃ file, file ∈ a.files := by
    have hne : ∀ b ∈ all, b.files ≠ [] := by decide
    exact List.exists_mem_of_ne_nil _ (hne a h.mem)
  exact FileTree.isDirectory_of_isFile (List.all_eq_true.1 h.stand file hfile)

end Artifacts

/-- What is located are the artifacts that are selected. -/
theorem locate_eq_ok_iff : locate tree root = .ok (place, layout) ↔
    ∃ a : Artifacts, a.layout = layout ∧ Selected tree root place a := by
  unfold locate
  dsimp only
  constructor
  · intro h
    split at h
    · cases h
    · split at h
      · next hlayout =>
        cases h
        obtain ⟨a, ha, hfirst⟩ := of?_eq_some_iff.1 hlayout
        exact ⟨a, ha, .root hfirst⟩
      · next hnone =>
        split at h
        · next hlayout =>
          cases h
          split at hlayout
          · obtain ⟨a, ha, hfirst⟩ := of?_eq_some_iff.1 hlayout
            exact ⟨a, ha, .inner (of?_eq_none_iff.1 hnone) hfirst⟩
          · cases hlayout
        · cases h
  · rintro ⟨a, ha, hselected⟩
    cases hselected with
    | root hfirst =>
      rw [hfirst.isDirectory, of?_eq_some_iff.2 ⟨a, ha, hfirst⟩]
      rfl
    | inner hnone hfirst =>
      rw [FileTree.isDirectory_of_isDirectory hfirst.isDirectory, of?_eq_none_iff.2 hnone,
        if_pos hfirst.isDirectory, of?_eq_some_iff.2 ⟨a, ha, hfirst⟩]
      rfl

namespace Artifacts

theorem child_ne (directory : FilePath) (name : String) : directory.child name ≠ directory := by
  intro h
  have hlength := congrArg (fun path => path.parts.length) h
  simp only [FilePath.child, List.length_append, List.length_singleton] at hlength
  omega

/-- Artifacts that are there in the other tree too are selected if nothing is in their way. -/
theorem Selected.of_standIn (hselected : Selected tree root place a)
    (hstand : a.standIn other place = true)
    (hearlier : ∀ b ∈ a.earlier, b.standIn other place = false)
    (hroot : place ≠ root → ∀ b ∈ all, b.standIn other root = false) :
    Selected other root place a := by
  cases hselected with
  | root hfirst => exact .root ⟨hfirst.mem, hstand, hearlier⟩
  | inner hnone hfirst => exact .inner (hroot (child_ne root _)) ⟨hfirst.mem, hstand, hearlier⟩

theorem Selected.firstIn (hselected : Selected tree root place a) : FirstIn tree place a := by
  cases hselected with
  | root hfirst => exact hfirst
  | inner hnone hfirst => exact hfirst

theorem standIn_congr {directory : FilePath} (h : ∀ file ∈ a.files,
    other.file? (directory.child file) = tree.file? (directory.child file)) :
    a.standIn other directory = a.standIn tree directory := by
  rw [Bool.eq_iff_iff, standIn, standIn, List.all_eq_true, List.all_eq_true]
  refine forall₂_congr fun file hfile => ?_
  rw [FileTree.isFile_eq_isSome, FileTree.isFile_eq_isSome, h file hfile]

/-- Artifacts are selected where what is looked at is the same. -/
theorem Selected.kept (hselected : Selected tree root place a)
    (h : KeptIn tree other root place a) : Selected other root place a := by
  refine hselected.of_standIn ?_ h.earlier h.root
  rw [standIn_congr fun file hfile => h.same file (List.mem_append_left _ hfile)]
  exact hselected.firstIn.stand

/-- Where the watched files are the same, so is what is looked at. -/
theorem Selected.keptIn_of_watched (hselected : Selected tree root place a)
    (h : ∀ path ∈ a.watched root place, other.file? path = tree.file? path) :
    KeptIn tree other root place a := by
  have hplace : ∀ file ∈ (a.earlier ++ [a]).flatMap files ++ Hints.files,
      other.file? (place.child file) = tree.file? (place.child file) :=
    fun file hfile => h _ (List.mem_append_left _ (List.mem_map_of_mem hfile))
  have hown : ∀ b ∈ a.earlier ++ [a], ∀ file ∈ b.files,
      other.file? (place.child file) = tree.file? (place.child file) :=
    fun b hb file hfile => hplace file (List.mem_append_left _ (List.mem_flatMap.2 ⟨b, hb, hfile⟩))
  refine ⟨?_, ?_, ?_⟩
  · intro file hfile
    rcases List.mem_append.1 hfile with hfile | hfile
    · exact hown a (List.mem_append_right _ List.mem_cons_self) file hfile
    · exact hplace file (List.mem_append_right _ hfile)
  · intro b hb
    rw [standIn_congr (hown b (List.mem_append_left _ hb))]
    exact hselected.firstIn.first b hb
  · intro hne b hb
    have hroot : ∀ file ∈ b.files,
        other.file? (root.child file) = tree.file? (root.child file) := by
      intro file hfile
      refine h _ (List.mem_append_right _ ?_)
      rw [if_neg hne]
      exact List.mem_map_of_mem (List.mem_flatMap.2 ⟨b, hb, hfile⟩)
    rw [standIn_congr hroot]
    cases hselected with
    | root hfirst => exact absurd rfl hne
    | inner hnone hfirst => exact hnone b hb

/-- The files of artifacts have the status that they have in the other tree. -/
theorem FirstIn.status_eq (hfirst : FirstIn tree place a) (h : KeptIn tree other root place a) :
    ∀ file ∈ a.files, other.status (place.child file) = tree.status (place.child file) :=
  fun file hfile => FileTree.status_eq_of_file? (h.same file (List.mem_append_left _ hfile))
    (List.all_eq_true.1 hfirst.stand file hfile)

/-- The piece model that is read is the one that was selected. -/
theorem FirstIn.pieceModelIn? {file : String} (h : FirstIn tree place ⟨.pieceModel, [file]⟩) :
    Layout.pieceModelIn? tree place = some (place.child file) := by
  have hfound := firstIn_iff_find?.1 h
  rw [find?_all] at hfound
  rw [pieceModelIn?_eq, Option.map_eq_some_iff]
  split at hfound
  · cases hfound
  · split at hfound
    · cases hfound
    · rcases Option.or_eq_some_iff.1 hfound with hpiece | ⟨_, hlist⟩
      · obtain ⟨name, hname, heq⟩ := Option.map_eq_some_iff.1 hpiece
        cases heq
        exact ⟨file, hname, rfl⟩
      · split at hlist <;> cases hlist

end Artifacts

end Layout

/-! ## Loading -/

namespace Tokenizer

open Layout Layout.Artifacts

variable {tree other : FileTree} {root place : FilePath} {a : Artifacts}

/-- A layout is loaded from the files of its artifacts. -/
theorem loadLayout_congr [PieceLibrary] (htree : FirstIn tree place a)
    (hother : FirstIn other place a)
    (h : ∀ file ∈ a.files, other.status (place.child file) = tree.status (place.child file))
    (hints : Hints) (config : Option Config) :
    loadLayout a.layout other place hints config = loadLayout a.layout tree place hints config := by
  have hmem := htree.mem
  -- One case for each layout; a piece model is read under the name that was selected.
  simp only [all, List.cons_append, List.mem_cons, List.mem_append, List.mem_map,
    List.not_mem_nil, or_false] at hmem
  obtain rfl | rfl | ⟨file, _, rfl⟩ | rfl := hmem
  · have hfile := h descriptorFile List.mem_cons_self
    show loadDescriptor _ _ _ _ = loadDescriptor _ _ _ _
    unfold loadDescriptor
    dsimp only
    rw [FileTree.readDocument_congr hfile]
  · have hids := h tokenIdFile List.mem_cons_self
    have hrules := h ruleFile (List.mem_cons_of_mem _ List.mem_cons_self)
    show loadBytePairFiles _ _ _ _ = loadBytePairFiles _ _ _ _
    unfold loadBytePairFiles
    rw [FileTree.readTokenIds_congr hids, FileTree.readRules_congr hrules]
  · have hfile := h file List.mem_cons_self
    show loadPieceModel _ _ _ _ = loadPieceModel _ _ _ _
    unfold loadPieceModel
    rw [htree.pieceModelIn?, hother.pieceModelIn?]
    dsimp only [Option.getD_some]
    rw [FileTree.readPieceModel_congr hfile]
  · have hfile := h tokenListFile List.mem_cons_self
    show loadTokenList _ _ _ _ = loadTokenList _ _ _ _
    unfold loadTokenList
    rw [FileTree.readLines_congr hfile]

/-- Where the same is located with the same hints, what is loaded is what the layout gives. -/
theorem load_congr [PieceLibrary] {layout : Layout} (htree : locate tree root = .ok (place, layout))
    (hother : locate other root = .ok (place, layout))
    (hhints : Hints.read other place = Hints.read tree place)
    (hlayout : ∀ hints config,
      loadLayout layout other place hints config = loadLayout layout tree place hints config)
    (config : Option Config) (choice : Option PolicyChoice) :
    load other root config choice = load tree root config choice := by
  have hplain : loadPlain other root config = loadPlain tree root config := by
    unfold loadPlain
    rw [htree, hother]
    show (Hints.read other place >>= fun hints => loadLayout layout other place hints config)
      = Hints.read tree place >>= fun hints => loadLayout layout tree place hints config
    rw [hhints]
    simp only [hlayout]
  unfold load
  rw [hplain]

/-- Loading gives the same, with any options and any policy. -/
theorem load_eq_of_kept [PieceLibrary] (hselected : Selected tree root place a)
    (hkept : KeptIn tree other root place a) (config : Option Config)
    (choice : Option PolicyChoice) :
    load other root config choice = load tree root config choice := by
  have htree := hselected.firstIn
  have hother := (hselected.kept hkept).firstIn
  refine load_congr (locate_eq_ok_iff.2 ⟨a, rfl, hselected⟩)
    (locate_eq_ok_iff.2 ⟨a, rfl, hselected.kept hkept⟩) ?_ ?_ config choice
  · exact Hints.read_congr fun file hfile => hkept.same file (List.mem_append_right _ hfile)
  · exact loadLayout_congr htree hother (htree.status_eq hkept)

/-- A directory is located with a layout exactly if artifacts of that layout are selected there.
    Loading comes to the same in any other tree that has the same of these and of the documents
    beside them, and nothing that would be selected in their place. So whatever else changes, which
    is any file that is not watched, has no part in what is loaded. -/
theorem load_unaffected [PieceLibrary] (tree : FileTree) (root : FilePath) :
    (∀ place layout, locate tree root = .ok (place, layout) ↔
      ∃ a : Artifacts, a.layout = layout ∧ Selected tree root place a) ∧
    ∀ place a, Selected tree root place a → ∀ other,
      KeptIn tree other root place a ∨
        (∀ path ∈ a.watched root place, other.file? path = tree.file? path) →
      ∀ config choice, load other root config choice = load tree root config choice := by
  refine ⟨fun place layout => locate_eq_ok_iff, ?_⟩
  rintro place a hselected other (hkept | hwatched) config choice
  · exact load_eq_of_kept hselected hkept config choice
  · exact load_eq_of_kept hselected (hselected.keptIn_of_watched hwatched) config choice

/-- The tree with much beside the list of tokens: a directory with the name of a descriptor, merge
    rules without a table of ids, and a descriptor in the inner directory. -/
def disturbedTree : FileTree := ⟨hintedTree.entries ++ [
  (["m", "tokenizer.json"], .directory),
  (["m", "merges.txt"], .file (Text.Utf8.encode "a b".toList)),
  (["m", "tokenizer", "tokenizer.json"], .file [])]⟩

/-- Nothing of that is looked at. -/
theorem load_unaffected_of_disturbed :
    Layout.locate hintedTree FileTree.home = .ok (FileTree.home, .tokenList) ∧
    (∃ t, (load hintedTree FileTree.home).result = .ok t) ∧
    load disturbedTree FileTree.home = load hintedTree FileTree.home := by
  let a : Artifacts := ⟨.tokenList, [tokenListFile]⟩
  have hselected : Selected hintedTree FileTree.home FileTree.home a :=
    .root ⟨by decide, rfl, by decide⟩
  have hkept : KeptIn hintedTree disturbedTree FileTree.home FileTree.home a :=
    ⟨by decide, by decide, fun h => absurd rfl h⟩
  exact ⟨((load_unaffected _ _).1 _ _).2 ⟨a, rfl, hselected⟩, exists_load_hintedTree,
    (load_unaffected _ _).2 _ _ hselected _ (.inl hkept) none none⟩

end Tokenizer

end Subword
