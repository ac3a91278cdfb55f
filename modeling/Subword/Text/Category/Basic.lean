/-!
# General categories

The thirty classes into which the standard sorts all code points, and the
seven groups they fall into.

## Main definitions

* `Category`: The class of a code point, named by its usual abbreviation.
* `Category.Group`: The group of a class: letters, marks, numbers and so on.
-/

namespace Subword

namespace Text

/-- The general category of a code point. -/
inductive Category where
  | lu | ll | lt | lm | lo
  | mn | mc | me
  | nd | nl | no
  | pc | pd | ps | pe | pi | pf | po
  | sm | sc | sk | so
  | zs | zl | zp
  | cc | cf | cs | co | cn
  deriving DecidableEq, Repr, Inhabited

/-- What the first letter of a category's abbreviation stands for. -/
inductive Category.Group where
  | letter | mark | number | punctuation | symbol | separator | other
  deriving DecidableEq, Repr, Inhabited

namespace Category

/-- The group of a category. -/
def group : Category → Group
  | lu | ll | lt | lm | lo => .letter
  | mn | mc | me => .mark
  | nd | nl | no => .number
  | pc | pd | ps | pe | pi | pf | po => .punctuation
  | sm | sc | sk | so => .symbol
  | zs | zl | zp => .separator
  | cc | cf | cs | co | cn => .other

end Category

end Text

end Subword
