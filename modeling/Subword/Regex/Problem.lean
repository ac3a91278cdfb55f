/-!
# Problems with patterns

What can be wrong with the text of a pattern, where, and how it is said. A
place is given by the characters that are left there, since that is what a
reader knows; position, line and column follow once the whole pattern is at
hand.

A reader stops for two kinds of reasons. Mostly the pattern is none of the
language. But the language has more than there are expressions for, and more
names than there are tables for, and where a reader meets with one of these the
pattern may well be a good one. The two are told apart in what a reader answers.

## Main definitions

* `Problem`: What is wrong.
* `Problem.isBeyond`: The problems that need not be the pattern's.
* `Stop`: A problem and its place.
* `Fault`: The same with position, line and column.
* `Fault.message`: The wording.
* `Refusal`: Why a pattern stands for no expression.
-/

namespace Subword

namespace Regex

/-- What is wrong with a pattern. -/
inductive Problem where
  | unterminatedSet
  | nothingToRepeat
  | multipleRepeat
  | repeatTooBig
  | boundsReversed
  | missing (c : Char)
  | missingBrace
  | unbalancedClose
  | endsInEscape
  | badEscape (c : Char)
  | incompleteEscape (c : Char) (digits : List Char)
  | badHexEscape (c : Char) (digits : List Char)
  | unknownProperty
  | unknownPropertyValue
  | badRange
  | setExpected
  | unknownExtension
  | unknownVerb
  | conditionExpected
  | missingGroupName
  | badGroupName
  /-- A group name outside the basic range that the tables do not allow. -/
  | foreignGroupName
  | unknownGroup
  | openGroup
  | groupReference
  | relativeGroup
  | undefinedList
  | undefinedCharacter
  | nothingToTolerate
  | badCost
  | repeatedCost
  | severalEquations
  | noFlagsOff
  | flagOnAndOff
  | globalFlagOff
  | flagsOff
  | unsupported
  deriving DecidableEq, Repr

/-- The wording of a problem. -/
def Problem.message : Problem → String
  | unterminatedSet => "unterminated character set"
  | nothingToRepeat => "nothing to repeat"
  | multipleRepeat => "multiple repeat"
  | repeatTooBig => "repeat count too big"
  | boundsReversed => "min repeat greater than max repeat"
  | missing c => "missing " ++ String.singleton c
  | missingBrace => "expected \x7d"
  | unbalancedClose => "unbalanced parenthesis"
  | endsInEscape => "bad escape (end of pattern)"
  | badEscape c => "bad escape \\" ++ String.singleton c
  | incompleteEscape c digits => "incomplete escape \\" ++ String.ofList (c :: digits)
  | badHexEscape c digits => "bad hex escape \\" ++ String.ofList (c :: digits)
  | unknownProperty => "unknown property"
  | unknownPropertyValue => "unknown property value"
  | badRange => "bad character range"
  | setExpected => "expected character set"
  | unknownExtension => "unknown extension"
  | unknownVerb => "unknown verb"
  | conditionExpected => "expected lookaround conditional"
  | missingGroupName => "missing group name"
  | badGroupName | foreignGroupName => "bad character in group name"
  | unknownGroup => "unknown group"
  | openGroup => "cannot refer to an open group"
  | groupReference => "invalid group reference"
  | relativeGroup => "invalid relative group number"
  | undefinedList => "undefined named list"
  | undefinedCharacter => "undefined character name"
  | nothingToTolerate => "nothing for fuzzy constraint"
  | badCost => "bad fuzzy cost limit"
  | repeatedCost => "repeated fuzzy cost"
  | severalEquations => "more than one cost equation"
  | noFlagsOff => "bad inline flags: no flags after '-'"
  | flagOnAndOff => "bad inline flags: flag turned on and off"
  | globalFlagOff => "bad inline flags: cannot turn off global flag"
  | flagsOff => "bad inline flags: cannot turn flags off"
  | unsupported => "unsupported construct"

/-- Whether a problem need not be one of the pattern: there is no counterpart for a part of it, or
    a name is in none of the tables, or editions of the language differ about it. -/
def Problem.isBeyond : Problem → Bool
  | unsupported | unknownProperty | unknownPropertyValue | undefinedCharacter
  | foreignGroupName => true
  | badEscape c => c = 'z'
  | _ => false

/-- A problem and the characters from its place on. -/
structure Stop where
  problem : Problem
  rest : List Char
  deriving DecidableEq, Repr

/-- What is wrong with a pattern, and the position, line and column of the place. -/
structure Fault where
  problem : Problem
  position : Nat
  line : Nat
  column : Nat
  /-- Whether the pattern has more than one line. -/
  lines : Bool
  deriving DecidableEq, Repr

/-- The wording of a fault. -/
def Fault.message (fault : Fault) : String :=
  fault.problem.message ++ " at position " ++ toString fault.position ++
    if fault.lines then
      " (line " ++ toString fault.line ++ ", column " ++ toString fault.column ++ ")"
    else ""

/-- The place in a pattern at which some characters are left. -/
def Fault.at (pattern : List Char) (stop : Stop) : Fault :=
  let position := pattern.length - stop.rest.length
  let before := pattern.take position
  ⟨stop.problem, position, 1 + before.count '\n',
    (before.reverse.takeWhile (· ≠ '\n')).length + 1, pattern.contains '\n'⟩

/-- Why a pattern stands for no expression. -/
inductive Refusal where
  /-- The pattern is none of the language. -/
  | malformed (fault : Fault)
  /-- A part of the pattern goes beyond what is read here. -/
  | beyond (fault : Fault)
  deriving DecidableEq, Repr

/-- What a reader that has stopped says of the whole pattern. -/
def Refusal.ofStop (pattern : List Char) (stop : Stop) : Refusal :=
  if stop.problem.isBeyond then .beyond (.at pattern stop) else .malformed (.at pattern stop)

end Regex

end Subword
