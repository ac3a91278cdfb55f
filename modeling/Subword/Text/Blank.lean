/-!
# Blank characters

There are two notions of white space, and texts tell them apart. The property
of the standard has twenty-five members; it is what a pattern means by its
space class. Lines and words of plain text are also separated by the four
information separators, U+001C to U+001F, which the property leaves out.

## Main definitions

* `isSpace`: The property of the standard.
* `isBlank`: The same with the four information separators.
* `trimBlanks`: A text without the blanks at its two ends.
-/

namespace Subword

namespace Text

/-- White space as the standard defines it. -/
def isSpace (c : Char) : Bool :=
  let p := c.toNat
  (0x09 ≤ p && p ≤ 0x0D) || p = 0x20 || p = 0x85 || p = 0xA0 || p = 0x1680 ||
    (0x2000 ≤ p && p ≤ 0x200A) || p = 0x2028 || p = 0x2029 || p = 0x202F || p = 0x205F ||
    p = 0x3000

/-- White space or one of the four information separators. -/
def isBlank (c : Char) : Bool :=
  isSpace c || (0x1C ≤ c.toNat && c.toNat ≤ 0x1F)

/-- Whether a text has at least one character and nothing but blanks. -/
def allBlank (s : List Char) : Bool :=
  !s.isEmpty && s.all isBlank

/-- A text without the blanks at its end. -/
def trimBlanksEnd (s : List Char) : List Char :=
  (s.reverse.dropWhile isBlank).reverse

/-- A text without the blanks at its beginning and end. -/
def trimBlanks (s : List Char) : List Char :=
  trimBlanksEnd (s.dropWhile isBlank)

end Text

end Subword
