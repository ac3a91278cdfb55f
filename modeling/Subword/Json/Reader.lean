import Std.Data.HashMap
import Subword.Json.Basic

/-!
# Reading documents

The reader takes a document apart from left to right and hands on the rest of
its characters. When it stops, the rest marks the place, from which the number
of the line is counted at the very end.

The grammar is the usual one with three more numbers, `NaN`, `Infinity` and
`-Infinity`. An object in which a key comes twice keeps the place of the first
and the value of the last. An integer with too many digits is in the grammar but
is not converted. Half of a surrogate pair on its own is no character of a text
here, so the replacement character is read for it. Nesting has no limit but the
memory of the machine.

Values nest, so the reader of a value is handed to the loops over lists and
objects, which call it for each item. Two numbers bound the recursion, one the
depth and one the items of a level. Both start at the length of the document,
which neither can exceed: every level and every item takes a character.

## Main definitions

* `Json.Problem`: What can be wrong with a document.
* `Json.parse`: The value of a document.
-/

namespace Subword

namespace Json

/-- What is wrong with a document. -/
inductive Problem where
  | expectedValue
  | expectedKey
  | expectedColon
  | expectedComma
  | extraData
  | unterminatedString
  | controlCharacter
  | badEscape
  | badPointEscape
  | byteOrderMark
  /-- An integer is not converted, since it has too many digits. -/
  | longInteger (digits : Nat)
  deriving DecidableEq, Repr

/-- The wording of a problem. -/
def Problem.message : Problem → String
  | expectedValue => "Expecting value"
  | expectedKey => "Expecting property name enclosed in double quotes"
  | expectedColon => "Expecting ':' delimiter"
  | expectedComma => "Expecting ',' delimiter"
  | extraData => "Extra data"
  | unterminatedString => "Unterminated string starting at"
  | controlCharacter => "Invalid control character at"
  | badEscape => "Invalid \\escape"
  | badPointEscape => "Invalid \\uXXXX escape"
  | byteOrderMark => "Unexpected UTF-8 BOM (decode using utf-8-sig)"
  | longInteger digits =>
    "Exceeds the limit (" ++ toString Decimal.mostDigits ++ " digits) for integer string " ++
      "conversion: value has " ++ toString digits ++ " digits; use " ++
      "sys.set_int_max_str_digits() to increase the limit"

/-- A problem and the characters from its place on. -/
structure Stop where
  problem : Problem
  rest : List Char

/-- What a reader makes of some characters, with those it leaves. -/
abbrev Read (α : Type) := Except Stop (α × List Char)

/-- The four blanks of a document. -/
def isLayout (c : Char) : Bool :=
  c = ' ' || c = '\t' || c = '\n' || c = '\r'

/-- The characters after the blanks in front. -/
def skip (s : List Char) : List Char :=
  s.dropWhile isLayout

/-- The value of a hexadecimal digit. -/
def hexValue? (c : Char) : Option Nat :=
  if '0' ≤ c && c ≤ '9' then some (c.toNat - 0x30)
  else if 'a' ≤ c && c ≤ 'f' then some (c.toNat - 0x61 + 10)
  else if 'A' ≤ c && c ≤ 'F' then some (c.toNat - 0x41 + 10)
  else none

/-- The value of four hexadecimal digits. -/
def hexPoint? (a b c d : Char) : Option Nat := do
  let a ← hexValue? a
  let b ← hexValue? b
  let c ← hexValue? c
  let d ← hexValue? d
  return ((a * 16 + b) * 16 + c) * 16 + d

/-- The character that a letter stands for after a backslash. -/
def escaped? (c : Char) : Option Char :=
  if c = '"' || c = '\\' || c = '/' then some c
  else if c = 'b' then some '\x08'
  else if c = 'f' then some '\x0c'
  else if c = 'n' then some '\n'
  else if c = 'r' then some '\r'
  else if c = 't' then some '\t'
  else none

/-- Characters so far, in reverse, where the first half of a surrogate pair may be waiting
    for the second. A half that stays alone becomes the replacement character. -/
def settle (high : Option Nat) (done : List Char) : List Char :=
  if high.isSome then '\uFFFD' :: done else done

/-- The characters of a string up to its closing quote. The first argument holds the
    characters from the opening quote on. -/
def stringOnto (opening : List Char) (high : Option Nat) (done : List Char) :
    List Char → Read String
  | [] => .error ⟨.unterminatedString, opening⟩
  | '"' :: rest => .ok (String.ofList (settle high done).reverse, rest)
  | ['\\'] => .error ⟨.unterminatedString, opening⟩
  -- A fifth character is asked for, since an escape that ends the text is never complete.
  | '\\' :: 'u' :: a :: b :: c :: d :: e :: rest =>
    match hexPoint? a b c d with
    | none => .error ⟨.badPointEscape, 'u' :: a :: b :: c :: d :: e :: rest⟩
    | some p =>
      if 0xDC00 ≤ p && p ≤ 0xDFFF then
        match high with
        | some h =>
          stringOnto opening none
            (Char.ofNat (0x10000 + (h - 0xD800) * 0x400 + (p - 0xDC00)) :: done) (e :: rest)
        | none => stringOnto opening none ('\uFFFD' :: done) (e :: rest)
      else if 0xD800 ≤ p && p ≤ 0xDBFF then
        stringOnto opening (some p) (settle high done) (e :: rest)
      else stringOnto opening none (Char.ofNat p :: settle high done) (e :: rest)
  | '\\' :: c :: rest =>
    if c = 'u' then .error ⟨.badPointEscape, c :: rest⟩
    else
      match escaped? c with
      | none => .error ⟨.badEscape, '\\' :: c :: rest⟩
      | some x => stringOnto opening none (x :: settle high done) rest
  | c :: rest =>
    if c.toNat < 0x20 then .error ⟨.controlCharacter, c :: rest⟩
    else stringOnto opening none (c :: settle high done) rest

/-- A string after its opening quote. -/
def string (rest : List Char) : Read String :=
  stringOnto ('"' :: rest) none [] rest

/-- The number that some decimal digits spell. -/
def digitsValue (digits : List Char) : Nat :=
  digits.foldl (fun n c => n * 10 + (c.toNat - 0x30)) 0

/-- The digits of a whole part: a zero, or digits that do not start with one. -/
def wholeDigits? : List Char → Option (List Char × List Char)
  | '0' :: rest => some (['0'], rest)
  | s => if (s.takeWhile Char.isDigit).isEmpty then none
    else some (s.takeWhile Char.isDigit, s.dropWhile Char.isDigit)

/-- The digits behind a point, if a point with digits comes next. -/
def fraction? : List Char → Option (List Char × List Char)
  | '.' :: rest => if (rest.takeWhile Char.isDigit).isEmpty then none
    else some (rest.takeWhile Char.isDigit, rest.dropWhile Char.isDigit)
  | _ => none

/-- The sign of an exponent and what follows it. -/
def exponentSign : List Char → Bool × List Char
  | '-' :: rest => (true, rest)
  | '+' :: rest => (false, rest)
  | rest => (false, rest)

/-- The exponent, if one with digits comes next. -/
def exponent? : List Char → Option (Int × List Char)
  | c :: rest =>
    if c = 'e' || c = 'E' then
      let (negative, digits) := exponentSign rest
      if (digits.takeWhile Char.isDigit).isEmpty then none
      else
        let n : Int := digitsValue (digits.takeWhile Char.isDigit)
        some (if negative then -n else n, digits.dropWhile Char.isDigit)
    else none
  | [] => none

/-- A number without its sign. -/
def unsigned? (negative : Bool) (s : List Char) : Option (Read Json) := do
  let (whole, rest) ← wholeDigits? s
  -- A point or an exponent without digits is not part of the number.
  match fraction? rest, exponent? ((fraction? rest).elim rest Prod.snd) with
  | none, none =>
    let n : Int := digitsValue whole
    if Decimal.mostDigits < whole.length then return .error ⟨.longInteger whole.length, s⟩
    else return .ok (int (if negative then -n else n), rest)
  | some (digits, rest), none =>
    return .ok
      (float (Decimal.toFloat negative (digitsValue (whole ++ digits)) (-digits.length)), rest)
  | none, some (e, rest) =>
    return .ok (float (Decimal.toFloat negative (digitsValue whole) e), rest)
  | some (digits, _), some (e, rest) =>
    return .ok
      (float (Decimal.toFloat negative (digitsValue (whole ++ digits)) (e - digits.length)), rest)

/-- A number, if one comes next. -/
def number? : List Char → Option (Read Json)
  | '-' :: rest => unsigned? true rest
  | s => unsigned? false s

/-- The characters after a given word, if they start with it. -/
def after? (word : List Char) (s : List Char) : Option (List Char) :=
  if word.isPrefixOf s then some (s.drop word.length) else none

/-- A word that is a value by itself, or a number. -/
def plain (s : List Char) : Read Json :=
  let words : List (String × Json) :=
    [("null", null), ("true", bool true), ("false", bool false), ("NaN", float (0.0 / 0.0)),
      ("Infinity", float (1.0 / 0.0)), ("-Infinity", float (-1.0 / 0.0))]
  let read := words.findSome? fun (word, value) =>
    (after? word.toList s).map fun rest => .ok (value, rest)
  match read.or (number? s) with
  | some result => result
  | none => .error ⟨.expectedValue, s⟩

/-- The items of a list, from the first one on. -/
def elements (item : List Char → Read Json) : Nat → List Json → List Char → Read Json
  | 0, _, s => .error ⟨.expectedValue, s⟩
  | bound + 1, done, s =>
    match item s with
    | .error stop => .error stop
    | .ok (value, rest) =>
      match skip rest with
      | ']' :: rest => .ok (arr (value :: done).reverse, rest)
      | ',' :: rest => elements item bound (value :: done) (skip rest)
      | rest => .error ⟨.expectedComma, rest⟩

/-- Fields with each key once: at its first place, and with its last value. -/
def mergeFields (fields : List (String × Json)) : List (String × Json) :=
  let last : Std.HashMap String Json :=
    fields.foldl (fun map field => map.insert field.1 field.2) ∅
  let first := fields.foldl
    (fun (seen : Std.HashMap String Unit × List (String × Json)) field =>
      if seen.1.contains field.1 then seen
      else (seen.1.insert field.1 (), (field.1, last.getD field.1 null) :: seen.2))
    (∅, [])
  first.2.reverse

/-- The fields of an object, from the first one on. -/
def members (item : List Char → Read Json) :
    Nat → List (String × Json) → List Char → Read Json
  | 0, _, s => .error ⟨.expectedKey, s⟩
  | bound + 1, done, s =>
    match s with
    | '"' :: rest =>
      match string rest with
      | .error stop => .error stop
      | .ok (key, rest) =>
        match skip rest with
        | ':' :: rest =>
          match item (skip rest) with
          | .error stop => .error stop
          | .ok (value, rest) =>
            match skip rest with
            | '}' :: rest => .ok (obj (mergeFields ((key, value) :: done).reverse), rest)
            | ',' :: rest => members item bound ((key, value) :: done) (skip rest)
            | rest => .error ⟨.expectedComma, rest⟩
        | rest => .error ⟨.expectedColon, rest⟩
    | s => .error ⟨.expectedKey, s⟩

/-- A value. The first argument bounds the items of a level, the second the depth. -/
def value (bound : Nat) : Nat → List Char → Read Json
  | 0, s => .error ⟨.expectedValue, s⟩
  | depth + 1, s =>
    match s with
    | '"' :: rest => (string rest).map fun (s, rest) => (str s, rest)
    | '[' :: rest =>
      match skip rest with
      | ']' :: rest => .ok (arr [], rest)
      | rest => elements (value bound depth) bound [] rest
    | '{' :: rest =>
      match skip rest with
      | '}' :: rest => .ok (obj [], rest)
      | rest => members (value bound depth) bound [] rest
    | s => plain s

/-- A whole document. -/
def document (s : List Char) : Except Stop Json :=
  match s with
  | '\uFEFF' :: _ => .error ⟨.byteOrderMark, s⟩
  | s =>
    let bound := s.length + 1
    match value bound bound (skip s) with
    | .error stop => .error stop
    | .ok (value, rest) =>
      match skip rest with
      | [] => .ok value
      | rest => .error ⟨.extraData, rest⟩

/-- A problem and the number of the line it is on. -/
structure Fault where
  problem : Problem
  line : Nat

/-- The value of a document. -/
def parse (text : String) : Except Fault Json :=
  let s := text.toList
  match document s with
  | .ok value => .ok value
  | .error stop =>
    .error ⟨stop.problem, 1 + (s.take (s.length - stop.rest.length)).count '\n'⟩

end Json

end Subword
