/-!
# Piece models

A table of scored pieces. Tables are read from files by a library, which is not
described here: it is whatever gives a table for the bytes of a file, or fails.
Of a table it says for every piece whether it controls a sequence and whether it
stands for a byte, and which pieces are the unknown one and those for the start,
the end and the padding of sequences, as far as there are such pieces.

A library fails in ways that are expected of it, and then a file counts as
malformed, and maybe in others, which nobody takes up.

## Main definitions

* `PieceTable`: A table, as a library gives it.
* `PieceLibrary`: What reads tables.
* `PieceLibrary.ReportsFailures`: No failure but those that are expected.
* `PieceModel`: What is taken from a table.
-/

namespace Subword

/-- A piece with its score. -/
structure ScoredPiece where
  text : String
  score : Float
  isControl : Bool
  isByte : Bool

/-- A table of pieces. The ids that are switched off are missing. -/
structure PieceTable where
  entries : List ScoredPiece
  unk : Option Nat
  bos : Option Nat
  eos : Option Nat
  pad : Option Nat

/-- How reading a table fails. -/
inductive PieceFailure where
  /-- As it does for a file that cannot be read. -/
  | reported
  | other (message : String)

/-- What reads the tables in files. -/
class PieceLibrary where
  read : List UInt8 → Except PieceFailure PieceTable

/-- Scored pieces with the ids of those that are not ordinary. -/
structure PieceModel where
  pieces : List String
  scores : List Float
  /-- The unknown piece, if the table says which it is. -/
  unk : Option Nat
  bos : Option Nat
  eos : Option Nat
  pad : Option Nat
  control : List Nat
  byteFallback : Bool

/-- The model in a table. There is a fallback to bytes as soon as some piece stands for one. -/
def PieceModel.ofTable (table : PieceTable) : PieceModel where
  pieces := table.entries.map ScoredPiece.text
  scores := table.entries.map ScoredPiece.score
  unk := table.unk
  bos := table.bos
  eos := table.eos
  pad := table.pad
  control := (List.range table.entries.length).filter fun i =>
    table.entries[i]?.any ScoredPiece.isControl
  byteFallback := table.entries.any ScoredPiece.isByte

end Subword
