import Subword.Regex.Escape

/-!
# Sets in brackets

The members of a set are characters, ranges, escapes and classes by name. A
hyphen between two characters makes a range of them and is a character
everywhere else. The first member may be a closing bracket, and a circumflex in
front of it asks for the characters that are not in the set.

## Main definitions

* `bracketSet`: Reads a set after its opening bracket.
-/

namespace Subword

namespace Regex

/-- A class by name in its own brackets, after the opening one and its colon. -/
def bracketClass? (s : List Char) : Option (Except Stop (Escape × List Char)) :=
  let (negated, s) := match s with
    | '^' :: s => (true, s)
    | s => (false, s)
  match className s with
  | (property?, name, ':' :: ']' :: after) =>
    some <|
      match CharClass.namedInBrackets property? name with
      | .ok (holds, k) => .ok (.ofClass (negated != holds) k, after)
      | .error problem => .error ⟨problem, after⟩
  | _ => none

/-- One item of a set: a character or a class. -/
def setItem : List Char → Except Stop (Escape × List Char)
  | [] => .error ⟨.unterminatedSet, []⟩
  | '\\' :: rest => escape true rest
  | '[' :: ':' :: rest => (bracketClass? rest).getD (.ok (.char '[', ':' :: rest))
  | c :: rest => .ok (.char c, rest)

/-- The set of one item. -/
def Escape.toSet : Escape → CharSet
  | char c => .char c
  | ofClass true k => .ofClass k
  | ofClass false k => .compl (.ofClass k)
  | _ => .compl .any

/-- The members that an item and what may follow it add to a set: an item or a range. A
    hyphen that opens no range is a character. -/
def setMember (s : List Char) : Except Stop (List CharSet × List Char) := do
  let (item, rest) ← setItem s
  match item, rest with
  | .char c, '-' :: ']' :: after => return ([.char c, .char '-'], ']' :: after)
  | .char c, '-' :: after =>
    let (last, after) ← setItem after
    match last with
    | .char d =>
      if d < c then .error ⟨.badRange, after⟩
      else if c = d then return ([.char c], after)
      else return ([.range c d], after)
    | last => return ([.char c, .char '-', last.toSet], after)
  | item, rest => return ([item.toSet], rest)

/-- The members of a set up to its closing bracket, after those in `done`. -/
def membersOnto : Nat → List CharSet → List Char → Except Stop (List CharSet × List Char)
  | 0, _, s => .error ⟨.unterminatedSet, s⟩
  | bound + 1, done, s =>
    match s with
    | ']' :: rest => .ok (done, rest)
    | s =>
      match setMember s with
      | .error stop => .error stop
      | .ok (members, rest) => membersOnto bound (done ++ members) rest

/-- The set with some members. -/
def setOf : List CharSet → CharSet
  | [s] => s
  | sets => .joined sets

/-- A set after its opening bracket. -/
def bracketSet (bound : Nat) (s : List Char) : Except Stop (CharSet × List Char) := do
  let (negated, s) := match s with
    | '^' :: s => (true, s)
    | s => (false, s)
  let (first, rest) ← setMember s
  let (members, rest) ← membersOnto bound first rest
  return (if negated then .outside (setOf members) else setOf members, rest)

end Regex

end Subword
