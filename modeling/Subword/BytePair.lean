import Subword.ByteAlphabet
import Subword.Merges
import Subword.SplitPattern
import Subword.Text.Search

/-!
# Byte pair encoding

A text is cut into chunks by a pattern. Each chunk is spelled in symbols, the
characters for its bytes or the characters themselves, and the merge rules are
applied to them. Vocabularies that mark the ends of words put a suffix behind
the last symbol of a chunk, and leave out chunks of white space, for which the
suffix stands already.

Putting tokens together again works on runs of tokens that are not special: a
character can be spread over several tokens, so their symbols go back to bytes
all at once.

## Main definitions

* `BytePair`: The settings.
* `BytePair.chunks`: The chunks of a text.
* `BytePair.segment`: The tokens of a text.
* `BytePair.join`: Tokens put together again.
-/

namespace Subword

/-- The settings of a byte pair tokenizer. -/
structure BytePair where
  rules : MergeRules
  pattern : SplitPattern
  /-- Whether symbols stand for bytes. -/
  byteLevel : Bool := true
  /-- Whether a text that does not start with a blank gets a space in front. -/
  addPrefixSpace : Bool := false
  /-- The suffix at the ends of words. -/
  suffix : Option String := none

namespace BytePair

/-- The suffix, when it is not empty. -/
def suffix? (b : BytePair) : Option String :=
  b.suffix.filter (!·.isEmpty)

/-- A text with the space in front that settings ask for. -/
def addPrefix (b : BytePair) (s : List Char) : List Char :=
  match s with
  | [] => []
  | c :: rest => if b.addPrefixSpace && !Text.isBlank c then ' ' :: c :: rest else c :: rest

/-- The chunks of a text. -/
def chunks (b : BytePair) (s : List Char) : List (List Char) :=
  let all := b.pattern.chunks (b.addPrefix s)
  if b.suffix?.isSome then all.filter fun chunk => !Text.allBlank chunk else all

/-- A row of symbols with a suffix behind the last one. -/
def addSuffix (suffix : String) : List String → List String
  | [] => []
  | [a] => [a ++ suffix]
  | a :: rest => a :: addSuffix suffix rest

/-- The symbols of a chunk before any rule is applied. -/
def symbols (b : BytePair) (chunk : List Char) : List String :=
  let chars := if b.byteLevel then ByteAlphabet.symbols chunk else chunk
  let symbols := chars.map String.singleton
  match b.suffix? with
  | some suffix => addSuffix suffix symbols
  | none => symbols

/-- The tokens of a text. -/
def segment (b : BytePair) (s : List Char) : List String :=
  (b.chunks s).flatMap fun chunk => b.rules.apply (b.symbols chunk)

/-- The text of a run of tokens, given as one. -/
def decodeRun (b : BytePair) (s : List Char) : List Char :=
  let s := if b.byteLevel then Text.Utf8.decodeLossy (ByteAlphabet.bytes s) else s
  match b.suffix? with
  | some suffix => Text.replace suffix.toList [' '] s
  | none => s

/-- Text so far and a run that has begun, both in reverse. -/
structure Joining where
  done : List Char
  run : List Char

/-- Ends a run. -/
def Joining.flush (b : BytePair) (j : Joining) : List Char :=
  (b.decodeRun j.run.reverse).reverseAux j.done

/-- Puts a token behind a text. The flag says whether it is special. -/
def joinStep (b : BytePair) (j : Joining) (token : String × Bool) : Joining :=
  -- A character can be spread over the tokens of a run, but never over a special token.
  if token.2 then ⟨token.1.toList.reverseAux (j.flush b), []⟩
  else ⟨j.done, token.1.toList.reverseAux j.run⟩

/-- The text of some tokens. -/
def join (b : BytePair) (tokens : List (String × Bool)) : String :=
  let reversed := (tokens.foldl b.joinStep ⟨[], []⟩).flush b
  let reversed := if b.suffix?.isSome then reversed.dropWhile (· = ' ') else reversed
  String.ofList reversed.reverse

end BytePair

end Subword
