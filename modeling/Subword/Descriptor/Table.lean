import Std.Data.HashSet
import Subword.Descriptor
import Subword.Vocabulary

/-!
# Tables of descriptors

The vocabulary of a descriptor comes in two forms. Models other than unigram
models have a table of ids, and a unigram model has a list of scored pieces,
whose ids are their positions. Added tokens are put into either. An added token
that is there already must have the same id.

## Main definitions

* `Descriptor.withAdded`: A table of ids with added tokens.
* `Descriptor.tokenIds`: The whole table of ids of a descriptor.
* `Descriptor.pieces`: The scored pieces of a unigram model.
* `Descriptor.extra`: What the special ones among the added tokens ask for.
-/

namespace Subword

namespace Descriptor

/-- A table in which a token has a given id. Its place is kept when it has one. -/
def setId (token : String) (id : Int) : List (String × Json) → List (String × Json)
  | [] => [(token, .int id)]
  | (name, value) :: rest =>
    if name = token then (name, .int id) :: rest else (name, value) :: setId token id rest

/-- A table of ids with one token more. A token without an id in the table gets it. -/
def addToken (entries : List (String × Json)) (token : AddedToken) :
    Except LoadFault (List (String × Json)) :=
  match (entries.lookup token.text).getD .null with
  -- A token whose id is null counts as one without an id.
  | .null => .ok (setId token.text token.id entries)
  | present =>
    if present.equalsInt token.id then .ok entries
    else .error (.addedTokenConflict token.text token.id present)

/-- A table of ids with added tokens. -/
def withAdded (entries : List (String × Json)) (added : List AddedToken) :
    Except LoadFault (List (String × Json)) :=
  added.foldlM addToken entries

/-- The whole table of ids of a descriptor. -/
def tokenIds (d : Descriptor) : Except LoadFault (List (String × Json)) :=
  match d.model.get "vocab" with
  | .obj entries => withAdded entries d.added
  | _ => .error (.vocabularyNotObject d.modelType.display)

/-- The score that an integer stands for. -/
def scoreOf (n : Int) : Except LoadFault Float :=
  if Decimal.inRange n then .ok (Decimal.ofInt n) else .error (.raw .greatScore)

/-- The piece in an entry of a list, and what comes of converting its score. -/
def pieceOf (index : Nat) : Json → Except LoadFault (String × Except LoadFault Float)
  | .arr [.str piece, .int score] => .ok (piece, scoreOf score)
  | .arr [.str piece, .float score] => .ok (piece, .ok score)
  | entry => .error (.malformedPiece entry index)

/-- The pieces in some entries, the first of which has a given position. None may be among those
    seen before. -/
def piecesFrom (index : Nat) (seen : Std.HashSet String) :
    List Json → Except LoadFault (List (String × Float))
  | [] => .ok []
  | entry :: rest =>
    match pieceOf index entry with
    | .error fault => .error fault
    | .ok (piece, converted) =>
      -- The score is converted only for a piece that is new.
      if seen.contains piece then .error (.duplicatePiece piece)
      else
        match converted with
        | .error fault => .error fault
        | .ok score =>
          (piecesFrom (index + 1) (seen.insert piece) rest).map ((piece, score) :: ·)

/-- The scored pieces of a unigram model. -/
def pieces (d : Descriptor) : Except LoadFault (List (String × Float)) :=
  match d.model.get "vocab" with
  | .arr entries => piecesFrom 0 ∅ entries
  | _ => .error .vocabularyNotList

/-- The table of ids of some pieces. -/
def pieceIds (pieces : List (String × Float)) : List (String × Json) :=
  pieces.mapIdx fun index piece => (piece.1, .int index)

/-- What is asked for by an added token that is special: the token of its text. A number in the
    place of the text asks for an id. -/
def wishOf? (token : AddedToken) : Option Slot.Wish :=
  match token.content with
  | .str text => some (.oneOf [text])
  | content => content.numeric?.map .id

/-- The wishes for special tokens without a slot. -/
def extra (d : Descriptor) : List Slot.Wish :=
  (d.added.filter AddedToken.special).filterMap wishOf?

end Descriptor

end Subword
