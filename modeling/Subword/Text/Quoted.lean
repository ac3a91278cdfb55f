import Subword.Text.Category

/-!
# Quoted texts

How a text is shown inside a message: between quotes, with everything that a
reader could not see or would misread written as an escape. The quotes are
single ones unless the text holds a single quote and no double one, so that few
quotes need an escape.

A token named in a message is shown more lightly: only its control characters
and their like are escaped, always in the four-digit form.

## Main definitions

* `quote`: A text between quotes.
* `showControls`: A text with its invisible characters escaped.
-/

namespace Subword

namespace Text

/-- A number in lower-case hexadecimal digits, filled up with zeros to a width. -/
def hexDigits (width n : Nat) : List Char :=
  let digits := Nat.toDigits 16 n
  List.replicate (width - digits.length) '0' ++ digits

/-- The escape of a character by its code point: as short as two, four or eight digits. -/
def escapePoint (c : Char) : List Char :=
  let p := c.toNat
  if p < 0x100 then '\\' :: 'x' :: hexDigits 2 p
  else if p < 0x10000 then '\\' :: 'u' :: hexDigits 4 p
  else '\\' :: 'U' :: hexDigits 8 p

/-- A character as it is written between quotes of the given kind. -/
def quoteChar (mark c : Char) : List Char :=
  if c = mark || c = '\\' then ['\\', c]
  else if c = '\n' then ['\\', 'n']
  else if c = '\r' then ['\\', 'r']
  else if c = '\t' then ['\\', 't']
  else if isVisible c then [c]
  else escapePoint c

/-- The kind of quotes a text is put between. -/
def quoteMark (s : List Char) : Char :=
  if s.contains '\'' && !s.contains '"' then '"' else '\''

/-- A text between quotes. -/
def quote (s : String) : String :=
  let mark := quoteMark s.toList
  String.ofList (mark :: s.toList.flatMap (quoteChar mark) ++ [mark])

/-- A text in which every character that is a control or like one is written by its code
    point, in four digits or more. -/
def showControls (s : String) : String :=
  String.ofList (s.toList.flatMap fun c =>
    if isOther c then '\\' :: 'u' :: hexDigits 4 c.toNat else [c])

/-- Several texts between quotes, in brackets. -/
def quoteList (items : List String) : String :=
  "[" ++ ", ".intercalate (items.map quote) ++ "]"

end Text

end Subword
