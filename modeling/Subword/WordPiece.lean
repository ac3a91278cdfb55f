import Subword.Vocabulary
import Subword.SplitPattern
import Subword.Text.Decomposition

/-!
# WordPiece

Words first, then pieces. A text is cleaned of control characters and, as
options say, put in lower case and stripped of accents. It is split into coarse
words at white space, where punctuation marks and ideographs are words of their
own. A word is then taken apart from the left, always by the longest piece that
is a token; pieces other than the first carry a mark in front. A word with a
place where no piece fits, or with too many characters, becomes the unknown
token as a whole.

## Main definitions

* `WordPiece`: The settings.
* `WordPiece.normalize`: The text that is split.
* `WordPiece.pieces?`: A word taken apart by longest pieces.
* `WordPiece.segment`: The tokens of a normalised text.
* `WordPiece.join`: Tokens put together again.
-/

namespace Subword

/-- The greatest number of characters of a word that is taken apart, when nothing is said. -/
def WordPiece.usualLongest : Json := .int 100

/-- The settings of a WordPiece tokenizer. -/
structure WordPiece where
  /-- The mark in front of pieces inside a word. -/
  mark : String := "##"
  /-- The greatest number of characters of a word that is taken apart. Any number will do. -/
  longestWord : Json := WordPiece.usualLongest
  /-- Whether accents are dropped; when nothing is said, they are in lower case. -/
  stripAccents : Option Bool := none
  /-- Whether the text is cleaned. -/
  cleanText : Bool := true

namespace WordPiece

/-- What cleaning makes of a character: a space of blanks, and nothing of controls. -/
def cleanChar (c : Char) : Option Char :=
  if c = '\x00' || c = '\uFFFD' then none
  else if c = '\t' || c = '\n' || c = '\r' then some ' '
  else
    match Text.category c with
    | .zs => some ' '
    | .cc | .cf => none
    | _ => some c

/-- A text without control characters, and with a space for each blank. -/
def clean (s : List Char) : List Char :=
  s.filterMap cleanChar

/-- The text that is split into words. -/
def normalize (w : WordPiece) (lowercase : Bool) (s : List Char) : List Char :=
  let s := if w.cleanText then clean s else s
  let s := if lowercase then Text.lower s else s
  if w.stripAccents.getD lowercase then Text.stripAccents s else s

/-- The coarse words of a text. -/
def words (s : List Char) : List (List Char) :=
  SplitPattern.Named.bert.pattern.chunks s

/-- The longest piece at the front of some characters that is a token with `mark` in front of
    it and has at most a given length, and the characters after it. -/
def longestPiece? (v : Vocabulary) (mark : String) (s : List Char) :
    Nat → Option (String × List Char)
  | 0 => none
  | n + 1 =>
    let piece := mark ++ String.ofList (s.take (n + 1))
    if v.contains piece then some (piece, s.drop (n + 1)) else longestPiece? v mark s n

/-- The pieces of the rest of a word, taken from the left, each as long as it can be. In front
    of the next one stands `mark`, in front of the others `inner`. The number bounds the
    pieces. -/
def piecesFrom? (v : Vocabulary) (inner : String) : Nat → String → List Char → Option (List String)
  | _, _, [] => some []
  | 0, _, _ => none
  | bound + 1, mark, s =>
    match longestPiece? v mark s s.length with
    | none => none
    | some (piece, rest) => (piecesFrom? v inner bound inner rest).map (piece :: ·)

/-- The pieces of a word, if pieces fit throughout. -/
def pieces? (w : WordPiece) (v : Vocabulary) (word : List Char) : Option (List String) :=
  piecesFrom? v w.mark word.length "" word

/-- Whether a word has too many characters to be taken apart. -/
def isTooLong (w : WordPiece) (word : List Char) : Bool :=
  w.longestWord.isLess word.length

/-- The tokens of a word. -/
def splitWord (w : WordPiece) (v : Vocabulary) (word : List Char) : List String :=
  if w.isTooLong word then [v.unkToken]
  else (w.pieces? v word).getD [v.unkToken]

/-- The tokens of a normalised text. -/
def segment (w : WordPiece) (v : Vocabulary) (s : List Char) : List String :=
  (words s).flatMap (w.splitWord v)

/-- Puts a token behind a text. The flag of the text says whether it has begun, the flag of the
    token whether it is special. -/
def joinStep (w : WordPiece) (done : Bool × List Char) (token : String × Bool) :
    Bool × List Char :=
  let s := token.1.toList
  let mark := w.mark.toList
  if !token.2 && !mark.isEmpty && mark.isPrefixOf s then
    (true, (s.drop mark.length).reverseAux done.2)
  else (true, s.reverseAux (if done.1 then ' ' :: done.2 else done.2))

/-- The text of some tokens: a space between them, and none where a mark stands. -/
def join (w : WordPiece) (tokens : List (String × Bool)) : String :=
  String.ofList (tokens.foldl w.joinStep (false, [])).2.reverse

end WordPiece

end Subword
