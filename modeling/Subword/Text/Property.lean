import Subword.Text.Blank
import Subword.Text.Category
import Subword.Text.Property.Table

/-!
# Properties of characters

The properties by which the standard sorts characters, apart from category and
script: a character has each of them or has it not. Many follow from the
category, with a table of exceptions; others are a table and nothing else.

## Main definitions

* `Property`: A property.
* `Property.holds`: Whether a character has it.
* `Property.named?`: The property with a given name.
-/

namespace Subword

namespace Text

/-- A property that a character has or has not. -/
inductive Property where
  | alphabetic | lowercase | uppercase | cased | caseIgnorable
  | word | alphanumeric | blank | graph | print | hexDigit | numericHexDigit
  | basicAlphanumeric | basicDigit | basicPunctuation | basicHexDigit
  | any | whiteSpace | math | dash | hyphen | quotationMark
  | terminalPunctuation | sentenceTerminal | diacritic | extender | softDotted
  | ideographic | unifiedIdeograph | radical | idsBinary | idsTrinary
  | logicalOrderException | nameStart | namePart | stableNameStart | stableNamePart
  | patternSyntax | patternWhiteSpace | graphemeBase | graphemeExtend
  | joinControl | bidiControl | bidiMirrored | defaultIgnorable | deprecated
  | nonCharacter | prependedMark | regionalIndicator | variationSelector
  | emoji | emojiComponent | emojiModifier | emojiModifierBase | emojiPresentation
  | extendedPictographic
  deriving DecidableEq, Repr

namespace Property

/-- Whether a character has a category that belongs to a group. -/
def inGroup (g : Category.Group) (c : Char) : Bool :=
  (laterCategory c).group = g

/-- Decimal digits of any script. -/
def isDecimalDigit (c : Char) : Bool :=
  laterCategory c = .nd

/-- Letters and letter numbers. -/
def isLetterLike (c : Char) : Bool :=
  inGroup .letter c || laterCategory c = .nl

/-- Small letters, and characters that are used as such. -/
def isLowercase (c : Char) : Bool :=
  laterCategory c = .ll || Span.covers otherLowercaseTable c.toNat

/-- Capital letters, and characters that are used as such. -/
def isUppercase (c : Char) : Bool :=
  laterCategory c = .lu || Span.covers otherUppercaseTable c.toNat

/-- Characters of alphabets. -/
def isAlphabetic (c : Char) : Bool :=
  isLetterLike c || isLowercase c || isUppercase c || Span.covers otherAlphabeticTable c.toNat

/-- The joiners. -/
def isJoinControl (c : Char) : Bool :=
  c.toNat = 0x200C || c.toNat = 0x200D

/-- Whether a character can be part of a word: a character of an alphabet, a mark, a decimal
    digit, a connector such as the low line, or a joiner. -/
def isWordCharacter (c : Char) : Bool :=
  match laterCategory c with
  | .lu | .ll | .lt | .lm | .lo | .nl | .mn | .mc | .me | .nd | .pc => true
  | _ => isAlphabetic c || isJoinControl c

/-- The digits of the basic range. -/
def isBasicDigit (c : Char) : Bool :=
  '0' ≤ c && c ≤ '9'

/-- The hexadecimal digits of the basic range. -/
def isBasicHexDigit (c : Char) : Bool :=
  isBasicDigit c || ('a' ≤ c && c ≤ 'f') || ('A' ≤ c && c ≤ 'F')

/-- The hexadecimal digits, the wide ones among them. -/
def isHexDigit (c : Char) : Bool :=
  let p := c.toNat
  isBasicHexDigit c || (0xFF10 ≤ p && p ≤ 0xFF19) || (0xFF21 ≤ p && p ≤ 0xFF26) ||
    (0xFF41 ≤ p && p ≤ 0xFF46)

/-- Characters that are a blank within a line. -/
def isBlankInLine (c : Char) : Bool :=
  c = '\t' || laterCategory c = .zs

/-- Characters that leave ink. -/
def isGraph (c : Char) : Bool :=
  match laterCategory c with
  | .cc | .cs | .cn => false
  | _ => !isSpace c

/-- What a name can begin with. -/
def isNameStart (c : Char) : Bool :=
  (isLetterLike c && c.toNat ≠ 0x2E2F) || Span.covers otherNameStartTable c.toNat

/-- What a name can go on with. -/
def isNamePart (c : Char) : Bool :=
  match laterCategory c with
  | .mn | .mc | .nd | .pc => true
  | _ => isNameStart c || Span.covers otherNamePartTable c.toNat

/-- What belongs to the character in front of it. -/
def isGraphemeExtend (c : Char) : Bool :=
  match laterCategory c with
  | .mn | .me => true
  | _ => Span.covers otherGraphemeExtendTable c.toNat

/-- Whether a character has a property. -/
def holds : Property → Char → Bool
  | alphabetic, c => isAlphabetic c
  | lowercase, c => isLowercase c
  | uppercase, c => isUppercase c
  | cased, c => isLowercase c || isUppercase c || laterCategory c = .lt
  | caseIgnorable, c =>
    match laterCategory c with
    | .mn | .me | .cf | .lm | .sk => true
    | _ => Span.covers otherCaseIgnorableTable c.toNat
  | word, c => isWordCharacter c
  | alphanumeric, c => isAlphabetic c || isDecimalDigit c
  | blank, c => isBlankInLine c
  | graph, c => isGraph c
  | print, c => (isGraph c || isBlankInLine c) && laterCategory c != .cc
  | hexDigit, c => isHexDigit c
  | numericHexDigit, c => isHexDigit c || isDecimalDigit c
  | basicAlphanumeric, c => isAlphabetic c || isBasicDigit c
  | basicDigit, c => isBasicDigit c
  | basicPunctuation, c =>
    inGroup .punctuation c || (inGroup .symbol c && !isAlphabetic c)
  | basicHexDigit, c => isBasicHexDigit c
  | any, _ => true
  | whiteSpace, c => isSpace c
  | math, c => laterCategory c = .sm || Span.covers otherMathTable c.toNat
  | dash, c => Span.covers dashTable c.toNat
  | hyphen, c => Span.covers hyphenTable c.toNat
  | quotationMark, c => Span.covers quotationMarkTable c.toNat
  | terminalPunctuation, c => Span.covers terminalPunctuationTable c.toNat
  | sentenceTerminal, c => Span.covers sentenceTerminalTable c.toNat
  | diacritic, c => Span.covers diacriticTable c.toNat
  | extender, c => Span.covers extenderTable c.toNat
  | softDotted, c => Span.covers softDottedTable c.toNat
  | ideographic, c => Span.covers ideographicTable c.toNat
  | unifiedIdeograph, c => Span.covers unifiedIdeographTable c.toNat
  | radical, c => Span.covers radicalTable c.toNat
  | idsBinary, c =>
    let p := c.toNat
    p = 0x2FF0 || p = 0x2FF1 || (0x2FF4 ≤ p && p ≤ 0x2FFD) || p = 0x31EF
  | idsTrinary, c => c.toNat = 0x2FF2 || c.toNat = 0x2FF3
  | logicalOrderException, c => Span.covers logicalOrderExceptionTable c.toNat
  | nameStart, c => isNameStart c
  | namePart, c => isNamePart c
  | stableNameStart, c => isNameStart c && !Span.covers unstableNameStartTable c.toNat
  | stableNamePart, c => isNamePart c && !Span.covers unstableNamePartTable c.toNat
  | patternSyntax, c => Span.covers patternSyntaxTable c.toNat
  | patternWhiteSpace, c =>
    let p := c.toNat
    (0x09 ≤ p && p ≤ 0x0D) || p = 0x20 || p = 0x85 || p = 0x200E || p = 0x200F ||
      p = 0x2028 || p = 0x2029
  | graphemeBase, c =>
    match laterCategory c with
    | .cc | .cf | .cs | .co | .cn | .zl | .zp => false
    | _ => !isGraphemeExtend c
  | graphemeExtend, c => isGraphemeExtend c
  | joinControl, c => isJoinControl c
  | bidiControl, c =>
    let p := c.toNat
    p = 0x061C || p = 0x200E || p = 0x200F || (0x202A ≤ p && p ≤ 0x202E) ||
      (0x2066 ≤ p && p ≤ 0x2069)
  | bidiMirrored, c => Span.covers bidiMirroredTable c.toNat
  | defaultIgnorable, c => Span.covers defaultIgnorableTable c.toNat
  | deprecated, c => Span.covers deprecatedTable c.toNat
  | nonCharacter, c =>
    let p := c.toNat
    0xFFFE ≤ p % 0x10000 || (0xFDD0 ≤ p && p ≤ 0xFDEF)
  | prependedMark, c => Span.covers prependedMarkTable c.toNat
  | regionalIndicator, c => 0x1F1E6 ≤ c.toNat && c.toNat ≤ 0x1F1FF
  | variationSelector, c =>
    let p := c.toNat
    (0x180B ≤ p && p ≤ 0x180D) || p = 0x180F || (0xFE00 ≤ p && p ≤ 0xFE0F) ||
      (0xE0100 ≤ p && p ≤ 0xE01EF)
  | emoji, c => Span.covers emojiTable c.toNat
  | emojiComponent, c => Span.covers emojiComponentTable c.toNat
  | emojiModifier, c => 0x1F3FB ≤ c.toNat && c.toNat ≤ 0x1F3FF
  | emojiModifierBase, c => Span.covers emojiModifierBaseTable c.toNat
  | emojiPresentation, c => Span.covers emojiPresentationTable c.toNat
  | extendedPictographic, c => Span.covers extendedPictographicTable c.toNat

/-- The names of each property, in capitals and without separators. -/
def names : List (Property × List String) :=
  [(alphabetic, ["ALPHABETIC", "ALPHA"]), (lowercase, ["LOWERCASE", "LOWER"]),
    (uppercase, ["UPPERCASE", "UPPER"]), (cased, ["CASED"]),
    (caseIgnorable, ["CASEIGNORABLE", "CI"]), (word, ["WORD"]),
    (alphanumeric, ["ALNUM", "ALPHANUMERIC"]), (blank, ["BLANK"]), (graph, ["GRAPH"]),
    (print, ["PRINT"]), (hexDigit, ["HEXDIGIT", "HEX"]), (numericHexDigit, ["XDIGIT"]),
    (basicAlphanumeric, ["POSIXALNUM"]), (basicDigit, ["POSIXDIGIT"]),
    (basicPunctuation, ["POSIXPUNCT"]),
    (basicHexDigit, ["ASCIIHEXDIGIT", "AHEX", "POSIXXDIGIT"]), (any, ["ANY"]),
    (whiteSpace, ["WHITESPACE", "SPACE", "WSPACE"]), (math, ["MATH"]), (dash, ["DASH"]),
    (hyphen, ["HYPHEN"]), (quotationMark, ["QUOTATIONMARK", "QMARK"]),
    (terminalPunctuation, ["TERMINALPUNCTUATION", "TERM"]),
    (sentenceTerminal, ["SENTENCETERMINAL", "STERM"]), (diacritic, ["DIACRITIC", "DIA"]),
    (extender, ["EXTENDER", "EXT"]), (softDotted, ["SOFTDOTTED", "SD"]),
    (ideographic, ["IDEOGRAPHIC", "IDEO"]), (unifiedIdeograph, ["UNIFIEDIDEOGRAPH", "UIDEO"]),
    (radical, ["RADICAL"]), (idsBinary, ["IDSBINARYOPERATOR", "IDSB"]),
    (idsTrinary, ["IDSTRINARYOPERATOR", "IDST"]),
    (logicalOrderException, ["LOGICALORDEREXCEPTION", "LOE"]), (nameStart, ["IDSTART", "IDS"]),
    (namePart, ["IDCONTINUE", "IDC"]), (stableNameStart, ["XIDSTART", "XIDS"]),
    (stableNamePart, ["XIDCONTINUE", "XIDC"]), (patternSyntax, ["PATTERNSYNTAX", "PATSYN"]),
    (patternWhiteSpace, ["PATTERNWHITESPACE", "PATWS"]),
    (graphemeBase, ["GRAPHEMEBASE", "GRBASE"]), (graphemeExtend, ["GRAPHEMEEXTEND", "GREXT"]),
    (joinControl, ["JOINCONTROL", "JOINC"]), (bidiControl, ["BIDICONTROL", "BIDIC"]),
    (bidiMirrored, ["BIDIMIRRORED", "BIDIM"]),
    (defaultIgnorable, ["DEFAULTIGNORABLECODEPOINT", "DI"]), (deprecated, ["DEPRECATED", "DEP"]),
    (nonCharacter, ["NONCHARACTERCODEPOINT", "NCHAR"]),
    (prependedMark, ["PREPENDEDCONCATENATIONMARK", "PCM"]),
    (regionalIndicator, ["REGIONALINDICATOR", "RI"]),
    (variationSelector, ["VARIATIONSELECTOR", "VS"]), (emoji, ["EMOJI"]),
    (emojiComponent, ["EMOJICOMPONENT", "ECOMP"]), (emojiModifier, ["EMOJIMODIFIER", "EMOD"]),
    (emojiModifierBase, ["EMOJIMODIFIERBASE", "EBASE"]),
    (emojiPresentation, ["EMOJIPRESENTATION", "EPRES"]),
    (extendedPictographic, ["EXTENDEDPICTOGRAPHIC", "EXTPICT"])]

/-- The property with a given name, in capitals and without separators. -/
def named? (key : String) : Option Property :=
  (names.find? fun entry => entry.2.contains key).map Prod.fst

end Property

end Text

end Subword
