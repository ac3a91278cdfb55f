import Subword.Text.Category
import Subword.Text.Decomposition.Table

/-!
# Canonical decomposition

A letter with marks can be one character or a letter followed by the marks. The
canonical decomposition takes every character apart as far as it goes, and then
puts runs of marks into the order of their combining classes, marks of one
class staying in the order they came in.

Sorting happens while the text goes by: the marks since the last character of
class zero wait in a list of their own, kept in order, and each new mark is
inserted behind all those of a class not above its own.

## Main definitions

* `decompose`: The canonical decomposition of a text.
* `stripAccents`: The decomposition without its nonspacing marks.
-/

namespace Subword

namespace Text

namespace Decomposition

/-- The table that covers a code point. -/
def tableFor (point : Nat) : Array (Span (List Nat)) :=
  if point < 0x370 then latin
  else if point < 0x900 then greekToHebrew
  else if point < 0x1E00 then indic
  else if point < 0x1F00 then latinAdditional
  else if point < 0x2000 then greekExtended
  else if point < 0xF900 then symbolsAndKana
  else if point < 0x10000 then compatibilityIdeographs
  else supplement

/-- The two or three letters of a syllable of hangul, by arithmetic on its index. -/
def hangul (index : Nat) : List Nat :=
  let leading := 0x1100 + index / 588
  let vowel := 0x1161 + index % 588 / 28
  let trailing := 0x11A7 + index % 28
  if index % 28 = 0 then [leading, vowel] else [leading, vowel, trailing]

/-- What one code point decomposes into. -/
def ofPoint (point : Nat) : List Nat :=
  if 0xAC00 ≤ point && point ≤ 0xD7A3 then hangul (point - 0xAC00)
  else
    match Span.find? (tableFor point) point with
    | none => [point]
    | some span => span.value

/-- The combining class of a character: zero for all but marks. -/
def rank (c : Char) : Nat :=
  match Span.find? classTable c.toNat with
  | none => 0
  | some span => span.value

/-- Puts a mark behind the marks of the same or a lower class. The marks are in reverse. -/
def insertMark (c : Char) : List Char → List Char
  | [] => [c]
  | m :: rest => if rank c < rank m then m :: insertMark c rest else c :: m :: rest

/-- Puts the marks of a text in order. In front of the text stand `done` and then the waiting
    marks, both in reverse. -/
def orderOnto (done waiting : List Char) : List Char → List Char
  | [] => (waiting ++ done).reverse
  | c :: rest =>
    -- Marks move only among the marks behind one starter.
    if rank c = 0 then orderOnto (c :: (waiting ++ done)) [] rest
    else orderOnto done (insertMark c waiting) rest

end Decomposition

/-- What one character decomposes into. -/
def decomposeChar (c : Char) : List Char :=
  (Decomposition.ofPoint c.toNat).map Char.ofNat

/-- A text with its runs of marks in canonical order. -/
def orderMarks (s : List Char) : List Char :=
  Decomposition.orderOnto [] [] s

/-- The canonical decomposition of a text. -/
def decompose (s : List Char) : List Char :=
  orderMarks (s.flatMap decomposeChar)

/-- A text decomposed and without its nonspacing marks. -/
def stripAccents (s : List Char) : List Char :=
  (decompose s).filter fun c => !isNonspacingMark c

end Text

end Subword
