import Subword.Regex.Matching
import Subword.Regex.Reader

/-!
# Split patterns

The patterns that cut a text into chunks before it is segmented. Six of them
are known by name, since vocabularies are trained on the chunks of one of them:
two that keep contractions, words, numbers and punctuation apart and let a word
take the space in front of it, two more of that kind which also look at line
ends, one that leaves white space out, and one that lets every ideograph and
punctuation mark stand alone.

Each of the six is given as a text, which is what is shown and compared, and as
the expression that the text stands for.

## Main definitions

* `SplitPattern`: A pattern with its text.
* `SplitPattern.Named`: The patterns known by name.
* `SplitPattern.chunks`: The chunks of a text.

## Theorems

* `SplitPattern.Named.gate?_regex`: A search for a named pattern passes over no place.
* `SplitPattern.Named.read_source`: The text of a named pattern stands for its expression.
-/

namespace Subword

/-- A pattern: its text and the expression it stands for. -/
structure SplitPattern where
  source : String
  regex : Regex

namespace SplitPattern

/-- The pattern with a given text. -/
def ofSource (source : String) : Except Regex.Refusal SplitPattern :=
  (Regex.read source).map fun regex => ⟨source, regex⟩

/-- The successive matches of a pattern in a text. -/
def chunks (p : SplitPattern) (s : List Char) : List (List Char) :=
  p.regex.findAll s

/-- The patterns known by name. -/
inductive Named where
  | gpt2 | gpt4 | clip | llama3 | qwen2 | bert
  deriving DecidableEq, Repr

namespace Named

/-- All patterns known by name, in the order in which they are listed. -/
def all : List Named := [gpt2, gpt4, clip, llama3, qwen2, bert]

/-- The name of a pattern. -/
def name : Named → String
  | gpt2 => "GPT2"
  | gpt4 => "GPT4"
  | clip => "CLIP"
  | llama3 => "LLAMA3"
  | qwen2 => "QWEN2"
  | bert => "BERT"

/-- The pattern with a given name, in capitals or not, with hyphens or low lines. -/
def ofName? (name : String) : Option Named :=
  all.find? fun p => p.name = Text.capitalsJoined name

/-- A pattern is found by its own name. -/
theorem ofName?_name (p : Named) : ofName? p.name = some p := by
  cases p <;> decide +kernel

open Regex

/-! ## Texts -/

/-- The text for letters. -/
def letterText : String := "\\p\x7bL\x7d"

/-- The text for numbers. -/
def numberText : String := "\\p\x7bN\x7d"

/-- The text for ideographs. -/
def hanText : String := "\\p\x7bHan\x7d"

/-- The text for punctuation, with the symbols of the basic range. -/
def punctuationText : String := "\\p\x7bP\x7d!-/:-@\\[-\x60\x7b-~"

/-- The text for the contractions of the patterns that look at line ends. -/
def contractionText : String :=
  "(?:'[sS]|'[tT]|'[rR][eE]|'[vV][eE]|'[mM]|'[lL][lL]|'[dD])|"

/-- The text for the white space at the end of a pattern. -/
def spaceText : String := "\\s+(?!\\S)|\\s+"

/-- The text of a pattern. -/
def source : Named → String
  | gpt2 =>
    "'(?:[sdmt]|ll|ve|re)|" ++
    " ?" ++ letterText ++ "+|" ++
    " ?" ++ numberText ++ "+|" ++
    " ?[^\\s" ++ letterText ++ numberText ++ "]+|" ++ spaceText
  | gpt4 =>
    "'(?i:[sdmt]|ll|ve|re)|" ++
    "[^\\r\\n" ++ letterText ++ numberText ++ "]?+" ++ letterText ++ "+|" ++
    numberText ++ "\x7b1,3\x7d|" ++
    " ?[^\\s" ++ letterText ++ numberText ++ "]++[\\r\\n]*|" ++
    "\\s*[\\r\\n]|" ++ spaceText
  | clip =>
    "<\\|startoftext\\|>|<\\|endoftext\\|>|" ++
    "'s|'t|'re|'ve|'m|'ll|'d|" ++
    letterText ++ "+|" ++ numberText ++ "|" ++
    "[^\\s" ++ letterText ++ numberText ++ "]+"
  | llama3 =>
    contractionText ++
    "[^\\r\\n" ++ letterText ++ numberText ++ "]?" ++ letterText ++ "+|" ++
    numberText ++ "\x7b1,3\x7d|" ++
    " ?[^\\s" ++ letterText ++ numberText ++ "]+[\\r\\n]*|" ++
    "\\s*[\\r\\n]+|" ++ spaceText
  | qwen2 =>
    contractionText ++
    "[^\\r\\n" ++ letterText ++ numberText ++ "]?" ++ letterText ++ "+|" ++
    numberText ++ "|" ++
    " ?[^\\s" ++ letterText ++ numberText ++ "]+[\\r\\n]*|" ++
    "\\s*[\\r\\n]+|" ++ spaceText
  | bert =>
    hanText ++ "|" ++
    "[" ++ punctuationText ++ "]|" ++
    "[^\\s" ++ punctuationText ++ hanText ++ "]+"

/-! ## Expressions -/

/-- One character of some given ones. -/
def oneOf (c : Char) (more : List Char) : CharSet :=
  more.foldl (fun set d => .union set (.char d)) (.char c)

/-- A character that is neither white space nor a letter nor a number. -/
def sign : CharSet :=
  .compl (.union (.union CharSet.spaces CharSet.letters) CharSet.numbers)

/-- A character that is neither a line end nor a letter nor a number. -/
def lead : CharSet :=
  .compl (.union (.union (oneOf '\r' ['\n']) CharSet.letters) CharSet.numbers)

/-- Punctuation, with the symbols of the basic range. -/
def punctuation : CharSet :=
  .union (.union (.union (.union (.ofClass (.group .punctuation)) (.range '!' '/'))
    (.range ':' '@')) (.range '[' '\x60')) (.range '\x7b' '~')

/-- A character that is neither white space nor punctuation nor an ideograph. -/
def plain : CharSet :=
  .compl (.union (.union (.union (.union (.union (.union CharSet.spaces
    (.ofClass (.group .punctuation))) (.range '!' '/')) (.range ':' '@')) (.range '[' '\x60'))
    (.range '\x7b' '~')) (.ofClass .han))

/-- A letter in either case. -/
def eitherCase (lower upper : Char) : Regex := ofSet (oneOf lower [upper])

/-- White space that no other character follows, or else any white space. -/
def spaceRuns : List Regex :=
  [seq (many .plus (ofSet CharSet.spaces)) (look false (ofSet (.compl CharSet.spaces))),
    many .plus (ofSet CharSet.spaces)]

/-- The contractions of the patterns that look at line ends. -/
def contractions : Regex :=
  let mark := ofSet (.char '\'')
  alts [seqs [mark, eitherCase 's' 'S'], seqs [mark, eitherCase 't' 'T'],
    seqs [mark, eitherCase 'r' 'R', eitherCase 'e' 'E'],
    seqs [mark, eitherCase 'v' 'V', eitherCase 'e' 'E'], seqs [mark, eitherCase 'm' 'M'],
    seqs [mark, eitherCase 'l' 'L', eitherCase 'l' 'L'], seqs [mark, eitherCase 'd' 'D']]

/-- The patterns that look at line ends differ in how they take numbers. -/
def lineAware (number : Regex) : Regex :=
  alts <| [contractions,
    seqs [many .opt (ofSet lead), many .plus (ofSet CharSet.letters)],
    number,
    seqs [many .opt (ofSet (.char ' ')), many .plus (ofSet sign),
      many .star (ofSet (oneOf '\r' ['\n']))],
    seqs [many .star (ofSet CharSet.spaces), many .plus (ofSet (oneOf '\r' ['\n']))]] ++
    spaceRuns

/-- A contraction without its apostrophe, without or with regard to case. -/
def contractionEnds (caseless : Bool) : Regex :=
  let two := fun (c d : Char) => seqs [one caseless (.char c), one caseless (.char d)]
  alts [one caseless (oneOf 's' ['d', 'm', 't']), two 'l' 'l', two 'v' 'e', two 'r' 'e']

/-- Up to three numbers. -/
def upToThree : Regex := many ⟨1, some 3, .greedy⟩ (ofSet CharSet.numbers)

/-- The expression of a pattern. -/
def regex : Named → Regex
  | gpt2 =>
    let space := many .opt (ofSet (.char ' '))
    alts <| [seqs [ofSet (.char '\''), contractionEnds false],
      seqs [space, many .plus (ofSet CharSet.letters)],
      seqs [space, many .plus (ofSet CharSet.numbers)],
      seqs [space, many .plus (ofSet sign)]] ++ spaceRuns
  | gpt4 =>
    alts <| [seqs [ofSet (.char '\''), contractionEnds true],
      seqs [many ⟨0, some 1, .possessive⟩ (ofSet lead), many .plus (ofSet CharSet.letters)],
      upToThree,
      seqs [many .opt (ofSet (.char ' ')), many ⟨1, none, .possessive⟩ (ofSet sign),
        many .star (ofSet (oneOf '\r' ['\n']))],
      seqs [many .star (ofSet CharSet.spaces), ofSet (oneOf '\r' ['\n'])]] ++ spaceRuns
  | clip =>
    alts [word "<|startoftext|>", word "<|endoftext|>", word "'s", word "'t", word "'re",
      word "'ve", word "'m", word "'ll", word "'d", many .plus (ofSet CharSet.letters),
      ofSet CharSet.numbers, many .plus (ofSet sign)]
  | llama3 => lineAware upToThree
  | qwen2 => lineAware (ofSet CharSet.numbers)
  | bert => alts [ofSet (.ofClass .han), ofSet punctuation, many .plus (ofSet plain)]

/-- A pattern known by name. -/
def pattern (p : Named) : SplitPattern := ⟨p.source, p.regex⟩

/-- The named patterns have no gate, so their matches begin wherever their expression says. -/
theorem gate?_regex (p : Named) : p.regex.gate? = none := by
  cases p <;> decide +kernel

theorem toOption_read_source (p : Named) : (Regex.read p.source).toOption = some p.regex := by
  cases p <;> decide +kernel

/-- The text of a named pattern stands for its expression. -/
theorem read_source (p : Named) : Regex.read p.source = .ok p.regex := by
  have h := toOption_read_source p
  cases hr : Regex.read p.source with
  | error e => simp [hr, Except.toOption] at h
  | ok r => simpa [hr, Except.toOption] using h

end Named

end SplitPattern

end Subword
