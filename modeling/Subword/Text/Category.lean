import Subword.Text.Category.Additions
import Subword.Text.Category.Basic
import Subword.Text.Category.Table

/-!
# The category of a character

Reads the category tables and names the few unions of categories that the rest
of the library asks for. Plain text follows edition 15.0 of the standard and
patterns follow a later one, so there are two readings.

## Main definitions

* `Category.ofPoint`: The category of a code point.
* `category`: The category of a character.
* `laterCategory`: The category of a character in the later edition.
* `isLetter`, `isOther`, `isNonspacingMark`: Groups of categories.
* `isVisible`: Characters that are written as themselves in a quoted text.
-/

namespace Subword

namespace Text

namespace Category

/-- The table that covers a code point. -/
def tableFor (point : Nat) : Array (Span Turns) :=
  if point < 0x2000 then alphabets
  else if point < 0x10000 then symbolsAndIdeographs
  else supplement

/-- The category that a span gives to one of its code points. -/
def Turns.at (turns : Turns) (offset : Nat) : Category :=
  if offset % 2 = 0 then turns.here else turns.next

/-- The category of a code point; without a character it is `cn`. -/
def ofPoint (point : Nat) : Category :=
  match Span.find? (tableFor point) point with
  | none => .cn
  | some span => span.value.at (point - span.first)

end Category

/-- The general category of a character. -/
def category (c : Char) : Category :=
  Category.ofPoint c.toNat

/-- The general category of a character in the later edition of the standard. -/
def laterCategory (c : Char) : Category :=
  match Span.find? Category.additions c.toNat with
  | none => category c
  | some span => span.value.at (c.toNat - span.first)

/-- Letters of any kind. -/
def isLetter (c : Char) : Bool :=
  (category c).group = .letter

/-- Controls, formats, private and unassigned code points. -/
def isOther (c : Char) : Bool :=
  (category c).group = .other

/-- Marks that take no room of their own. -/
def isNonspacingMark (c : Char) : Bool :=
  category c = .mn

/-- Characters that a quoted text shows as themselves: all but the controls and their
    like, and all but the separators other than the space. -/
def isVisible (c : Char) : Bool :=
  c = ' ' || ((category c).group != .other && (category c).group != .separator)

end Text

end Subword
