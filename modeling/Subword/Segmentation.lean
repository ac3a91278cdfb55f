/-!
# Best segmentations

A text is covered by steps. A step is a piece that has a score, or a single
character for which there is no piece of its own, at a fixed score. The best
segmentation has the greatest sum of scores; of equal ones it is the one whose
last piece is longer, and so on from the end.

The search goes over the text once. At each place stands a cell with the best
score of the text up to there and the length of the last step; the cells of the
places ahead that a piece can reach are kept in a row, which moves along with
the place. What is remembered of a cell in the end is the last step alone, and
the steps are read off from the end of the text backwards.

Scores are left open here: the search adds and compares them and does nothing
else. A cell that no step has reached has the lowest score. Where scores can be
as low as that themselves, a place may stay unreached; everything in front of
it is then one unknown step.

## Main definitions

* `Score`: The operations on scores.
* `Segmentation.Step`: A step.
* `Segmentation.steps`: The best segmentation of a text.
-/

namespace Subword

/-- The operations on scores. -/
class Score (S : Type) where
  /-- The score of the empty text. -/
  zero : S
  /-- The score of a place that has not been reached. -/
  lowest : S
  add : S → S → S
  lt : S → S → Bool
  same : S → S → Bool
  /-- Ten less than a score. -/
  tenLess : S → S

instance : Score Float where
  zero := 0.0
  lowest := -1.0 / 0.0
  add := (· + ·)
  lt a b := a < b
  same a b := a == b
  tenLess a := a - 10.0

namespace Segmentation

/-- What there is to choose from: the pieces with their scores, the length of the longest one,
    and the score of an unknown character. -/
structure Choices (S : Type) where
  score? : String → Option S
  longest : Nat
  unknown : S

/-- The last step of the best segmentation up to a place. -/
inductive Last where
  /-- The place has not been reached. -/
  | unreached
  /-- An unknown character. -/
  | unknown
  /-- A piece of some length. -/
  | piece (length : Nat)
  deriving DecidableEq, Repr

/-- The length that ties are decided by. -/
def Last.length : Last → Nat
  | unreached => 0
  | unknown => 1
  | piece length => length

/-- The best score up to a place, and the last step that leads to it. -/
structure Cell (S : Type) where
  best : S
  last : Last

/-- A step of a segmentation, with the text it covers. -/
inductive Step where
  | piece (s : List Char)
  | unknown (s : List Char)
  deriving DecidableEq, Repr

/-- The text that a step covers. -/
def Step.text : Step → List Char
  | piece s => s
  | unknown s => s

variable {S : Type} [Score S]

/-- The cell of a place that has not been reached. -/
def Cell.fresh : Cell S := ⟨Score.lowest, .unreached⟩

/-- Whether a place has been reached. -/
def Cell.isReached (cell : Cell S) : Bool := !Score.same cell.best Score.lowest

/-- A cell after a piece that ends at its place has been tried. -/
def Cell.offerPiece (cell : Cell S) (score : S) (length : Nat) : Cell S :=
  if Score.lt cell.best score || (Score.same score cell.best && cell.last.length < length) then
    ⟨score, .piece length⟩
  else cell

/-- A cell after an unknown character that ends at its place has been tried. -/
def Cell.offerUnknown (cell : Cell S) (score : S) : Cell S :=
  if Score.lt cell.best score then ⟨score, .unknown⟩ else cell

/-- Tries all pieces that start at a place and are longer than the characters `taken`. -/
def tryPieces (choices : Choices S) (base : S) (taken : String) (length : Nat) :
    List Char → List (Cell S) → List (Cell S)
  | c :: rest, cell :: cells =>
    let taken := taken.push c
    let cell := match choices.score? taken with
      | some score => cell.offerPiece (Score.add base score) (length + 1)
      | none => cell
    cell :: tryPieces choices base taken (length + 1) rest cells
  | _, cells => cells

/-- Tries an unknown character, for which there must be no piece. -/
def tryUnknown (choices : Choices S) (base : S) (c : Char) (cells : List (Cell S)) :
    List (Cell S) :=
  match choices.score? (String.singleton c), cells with
  | none, cell :: cells => cell.offerUnknown (Score.add base choices.unknown) :: cells
  | _, cells => cells

/-- The cells ahead of a place after all steps that start there have been tried. -/
def tryAll (choices : Choices S) (here : Cell S) (ahead : List (Cell S)) (c : Char)
    (rest : List Char) : List (Cell S) :=
  if here.isReached then
    tryUnknown choices here.best c (tryPieces choices here.best "" 0 (c :: rest) ahead)
  else ahead

/-- The last steps for the places up to the end of the text, from the last place back. The
    arguments are those for the places so far, the cell of the present place, and the cells
    of those ahead that a piece can reach. -/
def lastsOnto (choices : Choices S) (done : List Last) (here : Cell S) (ahead : List (Cell S)) :
    List Char → List Last
  | [] => here.last :: done
  | c :: rest =>
    -- The window moves on by one place: its first cell is settled, and a fresh one comes in.
    match tryAll choices here ahead c rest with
    | next :: ahead =>
      lastsOnto choices (here.last :: done) next (ahead ++ [Cell.fresh]) rest
    | [] => lastsOnto choices (here.last :: done) Cell.fresh [] rest

/-- The last steps for all places of a text, from its end back. -/
def lasts (choices : Choices S) (s : List Char) : List Last :=
  lastsOnto choices [] ⟨Score.zero, .unreached⟩ (List.replicate choices.longest Cell.fresh) s

/-- Reads steps off the last steps for all places of a text. The text is in reverse, and the
    number bounds the steps. -/
def traceOnto (done : List Step) : Nat → List Last → List Char → List Step
  | 0, _, _ => done
  | _, _, [] => done
  | _, [], s => .unknown s.reverse :: done
  | bound + 1, last :: lasts, c :: s =>
    match last with
    -- Without a last step, all of the text so far is one unknown step.
    | .unreached => .unknown (c :: s).reverse :: done
    | .unknown => traceOnto (.unknown [c] :: done) bound lasts s
    | .piece length =>
      traceOnto (.piece ((c :: s).take length).reverse :: done) bound
        ((last :: lasts).drop length) ((c :: s).drop length)

/-- The steps of the best segmentation of a text. -/
def steps (choices : Choices S) (s : List Char) : List Step :=
  traceOnto [] s.length (lasts choices s) s.reverse

end Segmentation

end Subword
