import Subword.Descriptor.Table
import Subword.Directory.Hints
import Subword.Directory.Layout

/-!
# Loading tokenizers

A tokenizer is loaded from a directory in three steps: the layout is detected,
the hints beside the tokenizer are read, and the files of the layout are put
together. Options that a caller gives count for everything that the files and
the hints say about options; otherwise they are seeded from these.

What goes around a sequence follows from the descriptor, if there is one that
speaks of it, or else from the hints, or else from what is usual. Byte pair
vocabularies often have one token that could be the start and the end at once,
and then nothing is usual.

Whatever library reads the tables of piece models, loading is the same otherwise.

## Main definitions

* `Descriptor.load`, `loadBytePairFiles`, `loadPieceModel`, `loadTokenList`: The four layouts.
* `Tokenizer.loadLayout`: A tokenizer in a given layout.
* `Tokenizer.load`: The tokenizer of a directory.
-/

namespace Subword

/-- A result of some file, whose faults are reported with its path. -/
def Outcome.ofFile {α : Type} (path : FilePath) (result : Except LoadFault α) : Outcome α :=
  match result with
  | .ok a => pure a
  | .error fault => Outcome.fail (.load fault (some path.toString))

/-- Whether a vocabulary has a start and an end token that differ. -/
def Vocabulary.hasDistinctEnds (v : Vocabulary) : Bool :=
  match v.special.bos, v.special.eos with
  | some start, some finish => start ≠ finish
  | _, _ => false

/-! ## Descriptors -/

namespace Descriptor

/-- The family of models that a descriptor is for. -/
def family? (d : Descriptor) : Option Family :=
  match d.modelType.str?.getD "" with
  | "WordPiece" => some .wordPiece
  | "BPE" => some .bytePair
  | "Unigram" => some .unigram
  | _ => none

/-- The token that a descriptor names for a slot. -/
def named (d : Descriptor) : Slot → Option String
  | .unk => (d.model.get "unk_token").str?
  | .pad => d.padToken.str?
  | .bos => d.wrapping.bind fun wrapping => wrapping.start.str?
  | .eos => d.wrapping.bind fun wrapping => wrapping.finish.str?
  | .mask => none

/-- What a descriptor says about options. -/
def usual (d : Descriptor) : Hints.Usual where
  lowercase := d.casing.lowercase
  cap := if d.maxLength.holds then d.maxLength else d.fixedLength.elim .null fun n => .int n
  paddingSide := d.paddingSide
  truncationSide := d.truncationSide
  fixedPadding := d.fixedPadding

/-- Whether start and end tokens go around a sequence. -/
def addEnds (d : Descriptor) (hints : Hints) (usual : Bool) : Bool × Bool :=
  match d.wrapping with
  | some wrapping => (!wrapping.start.isNull, !wrapping.finish.isNull)
  | none => hints.wrapping usual

/-- The text in a field of the model, if it is not empty. -/
def modelText (d : Descriptor) (field : String) : Option String :=
  (d.model.get field).str?.filter (!·.isEmpty)

/-- The WordPiece settings of a descriptor. -/
def wordPiece (d : Descriptor) : WordPiece where
  mark := (d.modelText "continuing_subword_prefix").getD "##"
  longestWord :=
    let longest := d.model.get "max_input_chars_per_word"
    if longest.holds then longest else WordPiece.usualLongest
  stripAccents := d.casing.stripAccents

/-- The WordPiece tokenizer of a descriptor. -/
def loadWordPiece (d : Descriptor) (path : FilePath) (hints : Hints) (wishes : Wishes)
    (config : Config) : Outcome (Tokenizer Float) := do
  let ids ← Outcome.ofFile path d.tokenIds
  let vocabulary ← Outcome.ofExcept (Vocabulary.ofMapping ids wishes d.extra)
  let (addStart, addEnd) := d.addEnds hints true
  return Tokenizer.ofWordPiece vocabulary config addStart addEnd d.wordPiece

/-- The merge rules of a descriptor. -/
def rules (d : Descriptor) : Except LoadFault MergeRules :=
  match MergeRules.ofEntries (itemsIfAny (d.model.get "merges")) with
  | .ok rules => .ok rules
  | .error fault => .error (.rules fault)

/-- The byte pair tokenizer of a descriptor. -/
def loadBytePair (d : Descriptor) (path : FilePath) (hints : Hints) (wishes : Wishes)
    (config : Config) : Outcome (Tokenizer Float) := do
  let ids ← Outcome.ofFile path d.tokenIds
  let vocabulary ← Outcome.ofExcept (Vocabulary.ofMapping ids wishes d.extra)
  let rules ← Outcome.ofFile path d.rules
  -- Markers belong to another family; here the pattern splits the text all the same.
  if d.splitting.metaspace then Outcome.warn .metaspaceIgnored
  let pattern ← Outcome.ofExcept (Tokenizer.patternOf d.splitting.pattern.str?)
  let (addStart, addEnd) := d.addEnds hints vocabulary.hasDistinctEnds
  return Tokenizer.ofBytePair vocabulary config addStart addEnd
    { rules
      pattern
      byteLevel := d.splitting.byteLevel
      addPrefixSpace := d.splitting.addPrefixSpace
      suffix := d.modelText "end_of_word_suffix" }

/-- Wishes in which the unknown token is asked for by id. -/
def withUnknownId (id : Int) (wishes : Wishes) : Wishes :=
  wishes.map fun wish => if wish.1 = Slot.unk.name then (wish.1, some (.id id)) else wish

/-- The wishes of a unigram descriptor, which can state the id of the unknown token. -/
def unigramWishes (d : Descriptor) (wishes : Wishes) : Wishes :=
  match d.model.get "unk_id" with
  | .int id => withUnknownId id wishes
  | _ => wishes

/-- The scores of a vocabulary that begins with some pieces. Tokens behind them score zero. -/
def scoresFor (v : Vocabulary) (pieces : List (String × Float)) : List Float :=
  pieces.map Prod.snd ++ List.replicate (v.size - pieces.length) 0.0

/-- The unigram tokenizer of a descriptor. -/
def loadUnigram (d : Descriptor) (path : FilePath) (hints : Hints) (wishes : Wishes)
    (config : Config) : Outcome (Tokenizer Float) := do
  let pieces ← Outcome.ofFile path d.pieces
  let ids ← Outcome.ofFile path (withAdded (pieceIds pieces) d.added)
  let vocabulary ← Outcome.ofExcept (Vocabulary.ofMapping ids (d.unigramWishes wishes) d.extra)
  let (addStart, addEnd) := d.addEnds hints true
  Tokenizer.ofUnigram vocabulary config addStart addEnd (scoresFor vocabulary pieces)
    d.splitting.metaspacePrefix (d.model.get "byte_fallback").holds

/-- The tokenizer of a descriptor. Its path is named in errors. -/
def load (d : Descriptor) (path : FilePath) (hints : Hints) (config : Option Config) :
    Outcome (Tokenizer Float) :=
  match d.family? with
  | none => Outcome.fail (.format (.unsupportedModel d.modelType) path.toString)
  | some family => do
    let wishes := hints.wishes family d.named
    let config ← config.elim (Outcome.ofExcept (hints.config d.usual)) pure
    match family with
    | .wordPiece => d.loadWordPiece path hints wishes config
    | .bytePair => d.loadBytePair path hints wishes config
    | .unigram => d.loadUnigram path hints wishes config

end Descriptor

/-! ## The other layouts -/

/-- The suffix at the ends of words, by which vocabularies that use one are known. -/
def wordEnd : String := "</w>"

/-- The cap of tokenizers with a suffix at the ends of words. -/
def wordEndCap : Nat := 77

/-- What is usual for tokenizers with a suffix at the ends of words: small letters, and rows
    filled up to the cap, which is a small one unless hints state another. -/
def wordEndUsual (hints : Hints) : Hints.Usual where
  lowercaseElse := true
  cap := if hints.maxLength.isNone then .int wordEndCap else .null
  fixedPadding := true

/-- Whether a token ends a word. -/
def endsWord (token : String) : Bool := wordEnd.toList.isSuffixOf token.toList

/-- The tokenizer of a table of ids and merge rules. -/
def loadBytePairFiles (tree : FileTree) (directory : FilePath) (hints : Hints)
    (config : Option Config) : Outcome (Tokenizer Float) := do
  let ids ← Outcome.ofExcept (tree.readTokenIds (directory.child Layout.tokenIdFile))
  let rules ← Outcome.ofExcept (tree.readRules (directory.child Layout.ruleFile))
  let vocabulary ← Outcome.ofExcept (Vocabulary.ofMapping ids (hints.wishes .bytePair) [])
  let marked := ids.any fun entry => endsWord entry.1
  let usual := if marked then wordEndUsual hints else {}
  let config ← config.elim (Outcome.ofExcept (hints.config usual)) pure
  let (addStart, addEnd) := hints.wrapping vocabulary.hasDistinctEnds
  return Tokenizer.ofBytePair vocabulary config addStart addEnd
    { rules
      pattern := (if marked then SplitPattern.Named.clip else .gpt2).pattern
      suffix := if marked then some wordEnd else none }

/-- The wishes for the slots of a piece model. -/
def PieceModel.wishes (model : PieceModel) : Wishes :=
  let id := fun (n : Nat) => Slot.Wish.id n
  -- An unknown piece that is not named is asked for by an id that no piece has.
  [(Slot.unk.name, some (model.unk.elim (.id (-1)) id)),
    (Slot.pad.name, model.pad.map id),
    (Slot.bos.name, model.bos.map id),
    (Slot.eos.name, model.eos.map id),
    (Slot.mask.name, some (.oneOf (Family.unigram.candidates .mask)))]

/-- The tokenizer of a piece model. -/
def loadPieceModel [PieceLibrary] (tree : FileTree) (directory : FilePath) (hints : Hints)
    (config : Option Config) : Outcome (Tokenizer Float) := do
  let path := (Layout.pieceModelIn? tree directory).getD directory
  let model ← Outcome.ofExcept (tree.readPieceModel path)
  let vocabulary ← Outcome.ofExcept
    (Vocabulary.ofTokens model.pieces model.wishes (model.control.map fun (id : Nat) => .id id))
  let (addStart, addEnd) := hints.wrapping true
  let config ← config.elim (Outcome.ofExcept (hints.config {})) pure
  Tokenizer.ofUnigram vocabulary config addStart addEnd model.scores true model.byteFallback

/-- The tokenizer of a list of tokens. -/
def loadTokenList (tree : FileTree) (directory : FilePath) (hints : Hints)
    (config : Option Config) : Outcome (Tokenizer Float) := do
  let lines ← Outcome.ofExcept (tree.readLines (directory.child Layout.tokenListFile))
  let vocabulary ← Outcome.ofExcept (Vocabulary.ofLines lines (hints.wishes .wordPiece) [])
  let config ← config.elim (Outcome.ofExcept (hints.config { lowercaseElse := true })) pure
  let (addStart, addEnd) := hints.wrapping true
  return Tokenizer.ofWordPiece vocabulary config addStart addEnd {}

/-- The tokenizer of the descriptor in a directory. -/
def loadDescriptor (tree : FileTree) (directory : FilePath) (hints : Hints)
    (config : Option Config) : Outcome (Tokenizer Float) := do
  let path := directory.child Layout.descriptorFile
  let document ← Outcome.ofExcept (tree.readDocument path)
  let descriptor ← Descriptor.ofJson document (some path.toString)
  descriptor.load path hints config

namespace Tokenizer

/-- The tokenizer of a directory in a given layout. -/
def loadLayout [PieceLibrary] (layout : Layout) (tree : FileTree) (directory : FilePath)
    (hints : Hints) (config : Option Config) : Outcome (Tokenizer Float) :=
  match layout with
  | .descriptor => loadDescriptor tree directory hints config
  | .bytePairFiles => loadBytePairFiles tree directory hints config
  | .pieceModel => loadPieceModel tree directory hints config
  | .tokenList => loadTokenList tree directory hints config

/-- The tokenizer of a directory, before a policy is chosen. -/
def loadPlain [PieceLibrary] (tree : FileTree) (directory : FilePath) (config : Option Config) :
    Outcome (Tokenizer Float) := do
  let (directory, layout) ← Outcome.ofExcept (Layout.locate tree directory)
  let hints ← Hints.read tree directory
  loadLayout layout tree directory hints config

/-- How a policy is chosen. -/
inductive PolicyChoice where
  | given (policy : SpecialPolicy)
  | named (name : String)

/-- The policy that is chosen. -/
def PolicyChoice.policy : PolicyChoice → Except Error SpecialPolicy
  | given policy => .ok policy
  | named name => SpecialPolicy.ofName name none

/-- The tokenizer of a directory. Options that are given count for all that the directory says
    about options. -/
def load [PieceLibrary] (tree : FileTree) (directory : FilePath) (config : Option Config := none)
    (choice : Option PolicyChoice := none) : Outcome (Tokenizer Float) := do
  let tokenizer ← loadPlain tree directory config
  match choice with
  | none => return tokenizer
  | some choice =>
    let policy ← Outcome.ofExcept choice.policy
    return tokenizer.withPolicy (some policy)

end Tokenizer

end Subword
