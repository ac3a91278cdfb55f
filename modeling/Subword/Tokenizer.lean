import Subword.BytePair
import Subword.Config
import Subword.SpecialPolicy
import Subword.Unigram
import Subword.WordPiece

/-!
# Tokenizers

A tokenizer is a vocabulary, the options it uses unless others are given, and
one of three ways to segment a text. What the three have in common is here:
special tokens in the text are set apart first, what is left is normalised and
segmented, the tokens become ids, a sequence that is too long loses tokens on
one side, and the tokens for the start and the end go around it.

Decoding resolves all ids first, so that a bad one is reported before anything
is put together, and then leaves the joining of tokens to the way of
segmentation.

Unigram scores are left open, as they are in the search for segmentations.

## Main definitions

* `Model`: A way to segment a text.
* `Tokenizer`: A vocabulary, options and a model.
* `Tokenizer.tokenize`: The tokens of a text.
* `Tokenizer.encode`: The ids of a text, cut to length and wrapped.
* `Tokenizer.decode`: The text of some ids.
-/

namespace Subword

/-- A way to segment a text and to put tokens together again. -/
inductive Model (S : Type) where
  | wordPiece (w : WordPiece)
  | bytePair (b : BytePair)
  | unigram (u : Unigram S)

/-- The families of models. -/
inductive Family where
  | wordPiece | bytePair | unigram
  deriving DecidableEq, Repr

namespace Family

/-- All families, in order. -/
def all : List Family := [wordPiece, bytePair, unigram]

/-- The name of a family. -/
def name : Family → String
  | wordPiece => "wordpiece"
  | bytePair => "bpe"
  | unigram => "unigram"

/-- The name of a tokenizer of a family in its summary. -/
def title : Family → String
  | wordPiece => "WordPieceTokenizer"
  | bytePair => "BPETokenizer"
  | unigram => "UnigramTokenizer"

/-- The family with a given name. -/
def ofName (name : String) : Except Error Family :=
  match all.find? fun family => family.name = name with
  | some family => .ok family
  | none => .error (.config (.unknownName .tokenizerType name))

/-- A family is found by its own name. -/
theorem ofName_name (family : Family) : ofName family.name = .ok family := by
  cases family <;> rfl

/-- The tokens tried for a slot when nothing else is said. -/
def candidates : Family → Slot → List String
  | wordPiece, .unk => ["[UNK]"]
  | wordPiece, .pad => ["[PAD]"]
  | wordPiece, .bos => ["[CLS]"]
  | wordPiece, .eos => ["[SEP]"]
  | wordPiece, .mask => ["[MASK]"]
  | bytePair, .unk => ["<unk>", "<|endoftext|>"]
  | bytePair, .pad => ["<pad>", "<|pad|>"]
  | bytePair, .bos => ["<s>", "<|startoftext|>", "<|begin_of_text|>"]
  | bytePair, .eos => ["</s>", "<|endoftext|>", "<|end_of_text|>"]
  | bytePair, .mask => ["<mask>"]
  | unigram, .unk => ["<unk>"]
  | unigram, .pad => ["<pad>"]
  | unigram, .bos => ["<s>"]
  | unigram, .eos => ["</s>"]
  | unigram, .mask => ["<mask>"]

/-- The wishes for all slots when nothing else is said. -/
def wishes (family : Family) : Wishes :=
  Slot.all.map fun slot => (slot.name, some (.oneOf (family.candidates slot)))

end Family

/-- The family of a model. -/
def Model.family {S : Type} : Model S → Family
  | wordPiece _ => .wordPiece
  | bytePair _ => .bytePair
  | unigram _ => .unigram

/-- A vocabulary, the options used unless others are given, and a model. -/
structure Tokenizer (S : Type) where
  vocabulary : Vocabulary
  config : Config
  /-- Whether the start token goes in front of a sequence. -/
  addStart : Bool
  /-- Whether the end token goes behind a sequence. -/
  addEnd : Bool
  /-- What special tokens in text mean unless something else is said. -/
  policy : Option SpecialPolicy
  model : Model S

/-- The ids of a text with what is known about them. -/
structure Encoded where
  ids : List Nat
  tokens : List String
  /-- One for the tokens around the sequence, zero for those inside. -/
  mask : List Nat
  /-- How many tokens were dropped. -/
  truncated : Nat
  deriving DecidableEq, Repr

namespace Tokenizer

variable {S : Type} [Score S]

/-! ## Encoding -/

/-- A text as the model wants it. -/
def normalize (t : Tokenizer S) (config : Config) (s : List Char) : List Char :=
  match t.model with
  | .wordPiece w => w.normalize config.lowercase s
  | _ => if config.lowercase then Text.lower s else s

/-- The tokens of a normalised text. -/
def segment (t : Tokenizer S) (s : List Char) : List String :=
  match t.model with
  | .wordPiece w => w.segment t.vocabulary s
  | .bytePair b => b.segment s
  | .unigram u => u.segment t.vocabulary s

/-- A text cut at the special tokens that a policy allows in it. -/
def split (t : Tokenizer S) (policy : Option SpecialPolicy) (s : List Char) :
    Outcome (List Text.Segment) :=
  match policy.or t.policy with
  | none => return [.plain s]
  | some policy => do
    let allowed ← policy.allowed s t.vocabulary.literals
    if allowed.isEmpty then return [.plain s]
    else return Text.cut (allowed.map fun literal => literal.1.toList) s

/-- The tokens of a part of a text. -/
def segmentTokens (t : Tokenizer S) (config : Config) : Text.Segment → List String
  | .literal s => [String.ofList s]
  | .plain s => t.segment (t.normalize config s)

/-- The tokens of a text, neither cut to length nor wrapped. -/
def tokenizeWith (t : Tokenizer S) (config : Config) (policy : Option SpecialPolicy)
    (s : List Char) : Outcome (List String) := do
  let segments ← t.split policy s
  return segments.flatMap (t.segmentTokens config)

/-- The ids in front of a sequence. -/
def startIds (t : Tokenizer S) (config : Config) : List Nat :=
  if config.addSpecial && t.addStart then t.vocabulary.special.bos.toList else []

/-- The ids behind a sequence. -/
def endIds (t : Tokenizer S) (config : Config) : List Nat :=
  if config.addSpecial && t.addEnd then t.vocabulary.special.eos.toList else []

/-- How many ids go around a sequence. -/
def wrappingCount (t : Tokenizer S) (config : Config) : Nat :=
  (t.startIds config).length + (t.endIds config).length

/-- The room that a cap leaves inside the wrapping. -/
def room (t : Tokenizer S) (config : Config) : Except Error (Option Nat) :=
  match config.cap with
  | none => .ok none
  | some cap =>
    let wrapping := t.wrappingCount config
    if cap < wrapping then .error (.config (.capTooSmall cap wrapping))
    else .ok (some (cap - wrapping))

/-- Tokens cut to the room there is, on a given side. -/
def truncate (side : Side) (room : Option Nat) (tokens : List String) : List String :=
  match room with
  | none => tokens
  | some room =>
    match side with
    | .right => tokens.take room
    | .left => tokens.drop (tokens.length - room)

/-- The token with an id of the vocabulary. -/
def tokenOf (t : Tokenizer S) (id : Nat) : String :=
  (t.vocabulary.token? id).getD t.vocabulary.unkToken

/-- A sequence of tokens with its wrapping. -/
def wrap (t : Tokenizer S) (config : Config) (tokens : List String) (truncated : Nat) :
    Encoded :=
  let front := t.startIds config
  let back := t.endIds config
  { ids := front ++ tokens.map t.vocabulary.lookup ++ back
    tokens := front.map t.tokenOf ++ tokens ++ back.map t.tokenOf
    mask := front.map (fun _ => 1) ++ tokens.map (fun _ => 0) ++ back.map fun _ => 1
    truncated }

/-- The ids of a text under given options. -/
def encodeWith (t : Tokenizer S) (config : Config) (policy : Option SpecialPolicy)
    (s : List Char) : Outcome Encoded := do
  let room ← Outcome.ofExcept (t.room config)
  let tokens ← t.tokenizeWith config policy s
  let kept := truncate config.truncationSide room tokens
  return t.wrap config kept (tokens.length - kept.length)

/-- The ids of a text. Options that are not given are the tokenizer's own. -/
def encode (t : Tokenizer S) (text : String) (config : Option Config := none)
    (policy : Option SpecialPolicy := none) : Outcome Encoded :=
  t.encodeWith (config.getD t.config) policy text.toList

/-- The tokens of a text, neither cut to length nor wrapped. -/
def tokenize (t : Tokenizer S) (text : String) (config : Option Config := none)
    (policy : Option SpecialPolicy := none) : Outcome (List String) :=
  t.tokenizeWith (config.getD t.config) policy text.toList

/-- How many ids a text has. -/
def countTokens (t : Tokenizer S) (text : String) (config : Option Config := none) :
    Outcome Nat := do
  let encoded ← t.encode text config
  return encoded.ids.length

/-- How many ids go around the ids of a text. -/
def numSpecial (t : Tokenizer S) (config : Option Config := none) : Nat :=
  t.wrappingCount (config.getD t.config)

/-! ## Decoding -/

/-- The token with an id, and whether it is special. -/
def resolve (t : Tokenizer S) (id : Int) : Except Error (String × Bool) := do
  let token ← t.vocabulary.reverse id
  return (token, t.vocabulary.isSpecial id.toNat)

/-- The text of some tokens. Each says whether it is special. -/
def join (t : Tokenizer S) (tokens : List (String × Bool)) : String :=
  match t.model with
  | .wordPiece w => w.join tokens
  | .bytePair b => b.join tokens
  | .unigram u => u.join tokens

/-- The text of some tokens, without the special ones if they are to be skipped. -/
def joinKept (t : Tokenizer S) (skipSpecial : Bool) (tokens : List (String × Bool)) : String :=
  t.join (if skipSpecial then tokens.filter fun token => !token.2 else tokens)

/-- The text of some ids. -/
def decode (t : Tokenizer S) (ids : List Int) (skipSpecial : Bool := true) :
    Except Error String :=
  (ids.mapM t.resolve).map (t.joinKept skipSpecial)

/-- The text of some ids, given as document values. -/
def decodeValues (t : Tokenizer S) (ids : List Json) (skipSpecial : Bool := true) :
    Except Error String :=
  (ids.mapM fun id => t.vocabulary.idOf id >>= t.resolve).map (t.joinKept skipSpecial)

/-! ## Properties -/

/-- The id that rows are filled up with: the padding token's, or else the end token's, or else
    zero. -/
def padId (t : Tokenizer S) : Nat :=
  (t.vocabulary.special.pad.or t.vocabulary.special.eos).getD 0

/-- The ids that end a generated text. -/
def stopIds (t : Tokenizer S) : List Nat := t.vocabulary.special.eos.toList

/-- A tokenizer with other options. -/
def withConfig (t : Tokenizer S) (config : Config) : Tokenizer S := { t with config }

/-- A tokenizer with another policy. -/
def withPolicy (t : Tokenizer S) (policy : Option SpecialPolicy) : Tokenizer S :=
  { t with policy }

/-- A tokenizer in short. -/
def summary (t : Tokenizer S) : String :=
  t.model.family.title ++ "(vocab_size=" ++ toString t.vocabulary.size ++
    ", max_sequence_length=" ++ (t.config.cap.elim "None" toString) ++ ")"

/-! ## Making tokenizers -/

/-- A WordPiece tokenizer. -/
def ofWordPiece (v : Vocabulary) (config : Config) (addStart addEnd : Bool) (w : WordPiece) :
    Tokenizer S :=
  ⟨v, config, addStart, addEnd, none, .wordPiece w⟩

/-- The pattern with a given text; the usual one when none is given. -/
def patternOf (source : Option String) : Except Error SplitPattern :=
  match source with
  | none => .ok SplitPattern.Named.gpt2.pattern
  | some source =>
    match SplitPattern.ofSource source with
    | .ok pattern => .ok pattern
    | .error (.malformed fault) => .error (.pattern (.malformed source fault))
    | .error (.beyond fault) => .error (.pattern (.beyond source fault))

/-- A byte pair tokenizer. -/
def ofBytePair (v : Vocabulary) (config : Config) (addStart addEnd : Bool) (b : BytePair) :
    Tokenizer S :=
  ⟨v, config, addStart, addEnd, none, .bytePair b⟩

/-- A unigram tokenizer. -/
def ofUnigram (v : Vocabulary) (config : Config) (addStart addEnd : Bool) (scores : List S)
    (dummyPrefix byteFallback : Bool) : Outcome (Tokenizer S) := do
  let u ← Unigram.ofScores v scores dummyPrefix byteFallback
  return ⟨v, config, addStart, addEnd, none, .unigram u⟩

end Tokenizer

end Subword
