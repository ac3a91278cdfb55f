import Subword.Regex.ClassName
import Subword.Regex.Syntax

/-!
# Escapes

What a backslash and the characters after it stand for: a character by its code
or its usual letter, a class, a line end, a place, or a group that was matched
before. Most other letters mean nothing after a backslash, while signs stand
for themselves.

A number is a code in octal digits when it begins with a zero, stands in a set
or has three such digits, and otherwise the number of a group.

## Main definitions

* `Escape`: What an escape stands for.
* `escape`: Reads an escape after its backslash.
-/

namespace Subword

namespace Regex

/-- What an escape stands for. -/
inductive Escape where
  | char (c : Char)
  | ofClass (wanted : Bool) (k : CharClass)
  /-- A line end, which may be two characters. -/
  | lineEnd
  | start
  /-- What the group of a number matched. -/
  | group (number : Nat)
  /-- What the group of a name or number in angles matched, with the characters left after
      the opening angle. -/
  | namedGroup (name place : List Char)
  /-- A place or an expression that has no counterpart among the expressions. -/
  | unsupported

/-! ## Codes -/

/-- A number of hexadecimal digits of an escape, after those in `done`. -/
def hexOnto (letter : Char) (start : List Char) :
    Nat → List Char → List Char → Except Stop (List Char × List Char)
  | 0, done, s => .ok (done.reverse, s)
  | count + 1, done, s =>
    match s with
    | c :: rest =>
      if c.isDigit || ('a' ≤ c && c ≤ 'f') || ('A' ≤ c && c ≤ 'F') then
        hexOnto letter start count (c :: done) rest
      else .error ⟨.incompleteEscape letter done.reverse, start⟩
    | [] => .error ⟨.incompleteEscape letter done.reverse, start⟩

/-- The number that digits spell in a base. -/
def numberIn (base : Nat) (digits : List Char) : Nat :=
  digits.foldl (fun n c =>
    n * base + if c.isDigit then c.toNat - 48 else c.toLower.toNat - 87) 0

/-- What a code point stands for. A surrogate is no character, so its class has none. -/
def Escape.ofPoint (point : Nat) : Escape :=
  if 0xD800 ≤ point && point < 0xE000 then .ofClass true (.category .cs)
  else .char (Char.ofNat point)

/-- An escape by code point, with a number of hexadecimal digits. -/
def hexEscape (letter : Char) (count : Nat) (rest : List Char) :
    Except Stop (Escape × List Char) := do
  let (digits, rest') ← hexOnto letter rest count [] rest
  let point := numberIn 16 digits
  if point < 0x110000 then return (.ofPoint point, rest')
  else .error ⟨.badHexEscape letter digits, rest⟩

/-- Whether a character is an octal digit. -/
def isOctal (c : Char) : Bool :=
  '0' ≤ c && c ≤ '7'

/-- An escape by up to three octal digits, the first of which is given. -/
def octalEscape (c : Char) (rest : List Char) : Except Stop (Escape × List Char) :=
  let more := (rest.take 2).takeWhile isOctal
  let rest := rest.drop more.length
  if isOctal c then .ok (.char (Char.ofNat (numberIn 8 (c :: more))), rest)
  else .error ⟨.badEscape c, rest⟩

/-- A number outside a set that does not begin with zero: a code of three octal digits, or
    the number of a group, of one or two digits. -/
def numericEscape (c : Char) : List Char → Escape × List Char
  | d :: e :: rest =>
    if isOctal c && isOctal d && isOctal e then
      (.char (Char.ofNat (numberIn 8 [c, d, e] % 0x200)), rest)
    else if d.isDigit then (.group (numberIn 10 [c, d]), e :: rest)
    else (.group (numberIn 10 [c]), d :: e :: rest)
  | [d] => if d.isDigit then (.group (numberIn 10 [c, d]), []) else (.group (numberIn 10 [c]), [d])
  | [] => (.group (numberIn 10 [c]), [])

/-! ## Classes -/

/-- The characters of the name of a class. -/
def isNamePart (c : Char) : Bool :=
  c.isAlphanum || [' ', '&', '_', '-', '.'].contains c

/-- The name of a class, which may have a property in front of it. -/
def className (s : List Char) : Option (List Char) × List Char × List Char :=
  let first := s.takeWhile isNamePart
  let isValuePart := fun c => isNamePart c || c = '/'
  match s.dropWhile isNamePart with
  | c :: rest =>
    let value := Text.trimBlanks (rest.takeWhile isValuePart)
    if (c = ':' || c = '=') && !value.isEmpty then
      (if first.isEmpty then none else some first, value, rest.dropWhile isValuePart)
    else (none, first, c :: rest)
  | [] => (none, first, [])

/-- A class by name, after the letter that announces it. Without a name it is that letter. -/
def classEscape (letter : Char) (wanted : Bool) (rest : List Char) :
    Except Stop (Escape × List Char) :=
  let found (negated : Bool) (k : Except Problem (Bool × CharClass)) (after : List Char) :
      Except Stop (Escape × List Char) :=
    match k with
    | .ok (holds, k) => .ok (.ofClass ((wanted != negated) = holds) k, after)
    | .error problem => .error ⟨problem, after⟩
  match rest with
  | '{' :: inner =>
    let (negated, inner) := match inner with
      | '^' :: inner => (true, inner)
      | inner => (false, inner)
    match className inner with
    | (property?, name, '}' :: after) =>
      found negated (CharClass.named property? name) after
    | _ => .ok (.char letter, rest)
  | c :: after =>
    if ['C', 'L', 'M', 'N', 'P', 'S', 'Z'].contains c then
      found false (CharClass.named none [c]) after
    else .ok (.char letter, rest)
  | [] => .ok (.char letter, rest)

/-! ## Names -/

/-- The characters up to a closing parenthesis or angle, and what follows. -/
def upToClose (s : List Char) : List Char × List Char :=
  let isClose := fun c => c = ')' || c = '>'
  (s.takeWhile fun c => !isClose c, s.dropWhile fun c => !isClose c)

/-- Whether a name is one for a group: a word that does not begin with a digit. -/
def isGroupName : List Char → Bool
  | [] => false
  | c :: rest =>
    (c = '_' || Text.Property.stableNameStart.holds c) &&
      rest.all Text.Property.stableNamePart.holds

/-- What is wrong with a name of a group. Outside the basic range the tables are not the last
    word. -/
def nameProblem (name : List Char) : Problem :=
  if name.all (·.toNat < 0x80) then .badGroupName else .foreignGroupName

/-- The name of a group. Where numbers are allowed, they begin with one. -/
def groupName (allowsNumber : Bool) (s : List Char) : Except Stop (List Char × List Char) :=
  let (name, rest) := upToClose s
  if name.isEmpty then .error ⟨.missingGroupName, rest⟩
  else if name.all Char.isDigit then
    if allowsNumber && numberIn 10 name ≠ 0 then .ok (name, rest)
    else .error ⟨.badGroupName, rest⟩
  else if isGroupName name then .ok (name, rest)
  else .error ⟨nameProblem name, rest⟩

/-- A list of texts by name. There are none. -/
def listEscape : List Char → Except Stop (Escape × List Char)
  | '<' :: rest => do
    let (_, rest) ← groupName true rest
    match rest with
    | '>' :: rest => .error ⟨.undefinedList, rest⟩
    | rest => .error ⟨.missing '>', rest⟩
  | rest => .error ⟨.missing '<', rest⟩

/-- A character by name, for which there is no table. Without a name in braces it is the
    letter. -/
def nameEscape (rest : List Char) : Except Stop (Escape × List Char) :=
  match rest with
  | '{' :: inner =>
    match inner.dropWhile fun c => c.isAlphanum || c = ' ' || c = '-' with
    | '}' :: after => .error ⟨.undefinedCharacter, after⟩
    | _ => .ok (.char 'N', rest)
  | rest => .ok (.char 'N', rest)

/-- The name or number of a group in angles. Without one it is the letter. -/
def groupEscape (rest : List Char) : Except Stop (Escape × List Char) :=
  match rest with
  | '<' :: place =>
    match groupName true place with
    | .ok (name, '>' :: after) => .ok (.namedGroup name place, after)
    | .ok _ => .ok (.char 'g', rest)
    | .error stop => if stop.problem.isBeyond then .error stop else .ok (.char 'g', rest)
  | rest => .ok (.char 'g', rest)

/-! ## All escapes -/

/-- What a letter stands for outside a set only. -/
def placeEscape? (c : Char) (rest : List Char) : Option (Except Stop (Escape × List Char)) :=
  match c with
  | 'A' => some (.ok (.start, rest))
  | 'R' => some (.ok (.lineEnd, rest))
  | 'L' => some (listEscape rest)
  | 'g' => some (groupEscape rest)
  | 'b' | 'B' | 'G' | 'K' | 'm' | 'M' | 'X' | 'Z' => some (.ok (.unsupported, rest))
  | _ => none

/-- What a letter stands for in a set as well. -/
def letterEscape (c : Char) (rest : List Char) : Except Stop (Escape × List Char) :=
  match c with
  | 'x' => hexEscape c 2 rest
  | 'u' => hexEscape c 4 rest
  | 'U' => hexEscape c 8 rest
  | 'p' => classEscape c true rest
  | 'P' => classEscape c false rest
  | 'N' => nameEscape rest
  | 'd' => .ok (.ofClass true .digit, rest)
  | 'D' => .ok (.ofClass false .digit, rest)
  | 'h' => .ok (.ofClass true (.property .blank true), rest)
  | 's' => .ok (.ofClass true .space, rest)
  | 'S' => .ok (.ofClass false .space, rest)
  | 'w' => .ok (.ofClass true .word, rest)
  | 'W' => .ok (.ofClass false .word, rest)
  | 'a' => .ok (.char '\x07', rest)
  | 'b' => .ok (.char '\x08', rest)
  | 'f' => .ok (.char '\x0c', rest)
  | 'n' => .ok (.char '\n', rest)
  | 'r' => .ok (.char '\r', rest)
  | 't' => .ok (.char '\t', rest)
  | 'v' => .ok (.char '\x0b', rest)
  | c => .error ⟨.badEscape c, rest⟩

/-- What follows a backslash. -/
def escape (inSet : Bool) : List Char → Except Stop (Escape × List Char)
  | [] => .error ⟨.endsInEscape, []⟩
  | c :: rest =>
    if c.isDigit then
      if inSet || c = '0' then octalEscape c rest else .ok (numericEscape c rest)
    else if c.isAlpha then
      match if inSet then none else placeEscape? c rest with
      | some answer => answer
      | none => letterEscape c rest
    else .ok (.char c, rest)

end Regex

end Subword
