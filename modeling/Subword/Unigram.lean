import Subword.Outcome
import Subword.Segmentation
import Subword.Vocabulary

/-!
# Unigram

Every token has a score, and a text is segmented as a whole so that the sum of
the scores is greatest. White space becomes a visible marker first, and a
marker goes in front of the text, so that its first word looks like any other.

Special tokens never match text, nor do the tokens that stand for single bytes.
A character that no token matches is the unknown token, or, when there is a
token for each of the bytes, those of its UTF-8 bytes.

## Main definitions

* `Unigram`: The settings and the table of scores.
* `Unigram.ofScores`: A tokenizer from a vocabulary and scores.
* `Unigram.segment`: The tokens of a text.
* `Unigram.join`: Tokens put together again.

## Theorems

* `Unigram.result_ofScores_eq_ok_iff`: A tokenizer needs as many scores as tokens.
-/

namespace Subword

namespace Unigram

/-- The marker for white space. -/
def marker : Char := '▁'

/-- The byte that a token such as `<0x0A>` stands for. -/
def byteOf? (token : String) : Option UInt8 :=
  match token.toList with
  | ['<', '0', 'x', a, b, '>'] => do
    let high ← Json.hexValue? a
    let low ← Json.hexValue? b
    return UInt8.ofNat (high * 16 + low)
  | _ => none

/-- What a token can do in a segmentation. -/
inductive Role (S : Type) where
  /-- Matches text, at a score. -/
  | piece (score : S)
  /-- Stands for a byte. -/
  | byte (b : UInt8)
  /-- Nothing: the token is special or empty. -/
  | none

/-- The score of a role that matches text. -/
def Role.score? {S : Type} : Role S → Option S
  | piece score => some score
  | _ => Option.none

/-- The tokens for bytes, by byte. -/
abbrev ByteTokens := Array (Option String)

/-- No tokens for bytes. -/
def noByteTokens : ByteTokens := Array.replicate 256 Option.none

end Unigram

/-- The settings of a unigram tokenizer, and what follows from its scores. -/
structure Unigram (S : Type) where
  /-- The scores by id. -/
  scores : Array S
  /-- Whether a marker goes in front of a text. -/
  dummyPrefix : Bool
  /-- Whether characters that no token matches are spelled in bytes. -/
  byteFallback : Bool
  /-- The roles by id. -/
  roles : Array (Unigram.Role S)
  /-- The length of the longest token that matches text. -/
  longest : Nat
  /-- The score of an unknown character. -/
  unknownScore : S
  byteTokens : Unigram.ByteTokens

namespace Unigram

variable {S : Type} [Score S]

/-- The role of a token. -/
def roleOf (v : Vocabulary) (id : Nat) (token : String) (score : S) : Role S :=
  if v.isSpecial id || token.isEmpty then .none
  else
    match byteOf? token with
    | some b => .byte b
    | Option.none => .piece score

/-- The roles of all tokens, by id. -/
def rolesOf (v : Vocabulary) (scores : Array S) : Array (Role S) :=
  v.tokens.keys.mapIdx fun id token =>
    match scores[id]? with
    | some score => roleOf v id token score
    | Option.none => .none

/-- The tokens for bytes among some tokens with their roles. Of two for one byte it is the
    later one. -/
def byteTokensOf (tokens : List (String × Role S)) : ByteTokens :=
  tokens.foldl (fun table entry =>
    match entry.2 with
    | .byte b => table.setIfInBounds b.toNat (some entry.1)
    | _ => table) noByteTokens

/-- The least of some scores, and zero of none. -/
def leastScore (scores : List S) : S :=
  match scores with
  | [] => Score.zero
  | score :: rest => rest.foldl (fun least s => if Score.lt s least then s else least) score

/-- How many bytes have a token. -/
def bytesPresent (table : ByteTokens) : Nat := table.toList.countP Option.isSome

/-- The settings with what follows from the scores, of which there is one for each token. Byte
    fallback needs a token for every byte. -/
def make (v : Vocabulary) (scores : List S) (dummyPrefix byteFallback : Bool) : Unigram S :=
  let scores := scores.toArray
  let roles := rolesOf v scores
  let tokens := v.tokens.toList.zip roles.toList
  let pieces := tokens.filterMap fun (token, role) => role.score?.map fun score => (token, score)
  let byteTokens := byteTokensOf tokens
  { scores, roles, byteTokens, dummyPrefix
    byteFallback := byteFallback && bytesPresent byteTokens = 256
    longest := (pieces.map fun piece => piece.1.length).foldl max 1
    unknownScore := Score.tenLess (leastScore (pieces.map Prod.snd)) }

/-- A tokenizer from a vocabulary and the scores of its tokens. Byte fallback is given up, with
    a warning, when a byte has no token. -/
def ofScores (v : Vocabulary) (scores : List S) (dummyPrefix byteFallback : Bool) :
    Outcome (Unigram S) := do
  if scores.length ≠ v.size then
    Outcome.fail (.load (.scoreCount scores.length v.size) Option.none)
  else
    let u := make v scores dummyPrefix byteFallback
    if byteFallback && !u.byteFallback then
      Outcome.warn (.bytePiecesMissing (bytesPresent u.byteTokens))
    return u

/-- A tokenizer is made when there are as many scores as tokens. -/
theorem result_ofScores_eq_ok_iff {v : Vocabulary} {scores : List S}
    {dummyPrefix byteFallback : Bool} {u : Unigram S} :
    (ofScores v scores dummyPrefix byteFallback).result = .ok u ↔
      scores.length = v.size ∧ u = make v scores dummyPrefix byteFallback := by
  unfold ofScores
  by_cases hcount : scores.length = v.size
  · rw [if_neg (not_not_intro hcount)]
    dsimp only
    split <;> simp [hcount, eq_comm, Except.map]
  · rw [if_pos hcount]
    simp [hcount]

/-- The score of a text as a piece. -/
def score? (u : Unigram S) (v : Vocabulary) (piece : String) : Option S := do
  let id ← v.get? piece
  let role ← u.roles[id]?
  role.score?

/-- The pieces to choose from. -/
def choices (u : Unigram S) (v : Vocabulary) : Segmentation.Choices S :=
  ⟨u.score? v, u.longest, u.unknownScore⟩

/-- A text with markers for white space, and one in front. -/
def mark (u : Unigram S) (s : List Char) : List Char :=
  let marked := s.map fun c => if Text.isSpace c then marker else c
  match marked with
  | [] => []
  | c :: _ => if u.dummyPrefix && c ≠ marker then marker :: marked else marked

/-- The tokens for a text that no piece matches. -/
def unknownTokens (u : Unigram S) (v : Vocabulary) (s : List Char) : List String :=
  if u.byteFallback then
    (Text.Utf8.encode s).map fun b => (u.byteTokens[b.toNat]?.join).getD v.unkToken
  else [v.unkToken]

/-- The tokens of a step. -/
def tokensOf (u : Unigram S) (v : Vocabulary) : Segmentation.Step → List String
  | .piece s => [String.ofList s]
  | .unknown s => u.unknownTokens v s

/-- The tokens of a text. -/
def segment (u : Unigram S) (v : Vocabulary) (s : List Char) : List String :=
  (Segmentation.steps (u.choices v) (u.mark s)).flatMap (u.tokensOf v)

/-- Text so far, in reverse, the bytes of a run that has begun, in reverse as well, and whether
    the marker in front of the text is still to be dropped. -/
structure Joining where
  done : List Char
  bytes : List UInt8
  atStart : Bool

/-- Ends a run of bytes. -/
def Joining.flush (j : Joining) : Joining :=
  if j.bytes.isEmpty then j
  else ⟨(Text.Utf8.decodeLossy j.bytes.reverse).reverseAux j.done, [], false⟩

/-- The text of a piece, with spaces for markers. -/
def pieceText (token : String) : List Char :=
  token.toList.map fun c => if c = marker then ' ' else c

/-- Puts a token behind a text. The flag says whether it is special. -/
def joinStep (j : Joining) (token : String × Bool) : Joining :=
  if token.2 then
    -- A special token is no text, so the marker in front of the text is still to come.
    let j := j.flush
    { j with done := token.1.toList.reverseAux j.done }
  else
    match byteOf? token.1 with
    | some b => { j with bytes := b :: j.bytes }
    | Option.none =>
      let j := j.flush
      let text := pieceText token.1
      let text := if j.atStart && text.head? = some ' ' then text.drop 1 else text
      ⟨text.reverseAux j.done, [], false⟩

/-- The text of some tokens. -/
def join (u : Unigram S) (tokens : List (String × Bool)) : String :=
  String.ofList (tokens.foldl joinStep ⟨[], [], u.dummyPrefix⟩).flush.done.reverse

end Unigram

end Subword
