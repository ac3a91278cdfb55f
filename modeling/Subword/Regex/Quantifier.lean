import Subword.Regex.Brackets

/-!
# Quantifiers

What can follow an item: how often it is repeated, or how many errors its
matches may have. Both can be given in braces. Braces with something else in
them are no quantifier, and the opening one is a plain character.

A tolerance names the kinds of errors it is about, deletions, insertions,
substitutions or all, each with bounds for their number, or an equation with
costs for the kinds. It can say after a colon which characters may be put in.

## Main definitions

* `quantifier?`: Reads the bounds of a repetition.
* `mode`: Reads how a repetition tries its counts.
* `tolerance?`: Reads a tolerance.
-/

namespace Subword

namespace Regex

/-! ## Repetition -/

/-- The counts of a quantifier in braces, after the opening one. -/
def bounds? (s : List Char) : Except Stop (Option (Nat × Option Nat × List Char)) :=
  let first := s.takeWhile Char.isDigit
  let found : Option (Nat × Option Nat × List Char) :=
    match s.dropWhile Char.isDigit with
    | ',' :: rest =>
      let second := rest.takeWhile Char.isDigit
      match rest.dropWhile Char.isDigit with
      | '}' :: after =>
        some (numberIn 10 first,
          if second.isEmpty then none else some (numberIn 10 second), after)
      | _ => none
    | '}' :: after =>
      if first.isEmpty then none
      else some (numberIn 10 first, some (numberIn 10 first), after)
    | _ => none
  match found with
  | none => .ok none
  | some (least, most, after) =>
    let tooBig := fun n => Nat.pow 2 32 - 1 ≤ n
    if tooBig least || most.any tooBig then .error ⟨.repeatTooBig, s⟩
    else if most.any (· < least) then .error ⟨.boundsReversed, s⟩
    else .ok (some (least, most, after))

/-- The counts of a quantifier, if one comes next. -/
def quantifier? : List Char → Except Stop (Option (Nat × Option Nat × List Char))
  | '?' :: rest => .ok (some (0, some 1, rest))
  | '*' :: rest => .ok (some (0, none, rest))
  | '+' :: rest => .ok (some (1, none, rest))
  | '{' :: rest => bounds? rest
  | _ => .ok none

/-- The mode of a quantifier, and what follows. -/
def mode : List Char → Mode × List Char
  | '?' :: rest => (.reluctant, rest)
  | '+' :: rest => (.possessive, rest)
  | rest => (.greedy, rest)

/-! ## Tolerance -/

/-- What a tolerance has said so far: the kinds with a bound, and whether it has an equation. -/
structure Tolerance where
  bounded : List Char
  hasEquation : Bool

/-- What is less, whether equality is allowed, and what follows. -/
def comparison? : List Char → Option (Bool × List Char)
  | '<' :: '=' :: rest => some (true, rest)
  | '<' :: rest => some (false, rest)
  | _ => none

/-- A number of errors, which must be there. -/
def costLimit (s : List Char) : Except Stop (Nat × List Char) :=
  let digits := s.takeWhile Char.isDigit
  if digits.isEmpty then .error ⟨.badCost, s⟩
  else .ok (numberIn 10 digits, s.dropWhile Char.isDigit)

/-- Whether a kind of errors can be bounded now. -/
def Tolerance.allows (t : Tolerance) (kind : Char) : Bool :=
  ['d', 'e', 'i', 's'].contains kind && !t.bounded.contains kind

/-- A kind with an upper bound or none. -/
def kindBound? (t : Tolerance) (kind : Char) (rest : List Char) :
    Except Stop (Option (Tolerance × List Char)) :=
  if !t.allows kind then .ok none
  else
    let t := { t with bounded := kind :: t.bounded }
    match comparison? rest with
    | none => .ok (some (t, rest))
    | some (inclusive, place) => do
      let (most, rest) ← costLimit place
      if !inclusive && most = 0 then .error ⟨.badCost, place⟩
      else return some (t, rest)

/-- A kind between two bounds. -/
def kindBounds? (t : Tolerance) (s : List Char) :
    Except Stop (Option (Tolerance × List Char)) := do
  let (least, rest) ← costLimit s
  match comparison? rest with
  | some (includesLeast, kind :: rest) =>
    if !t.allows kind then return none
    else
      match comparison? rest with
      | none => return none
      | some (includesMost, place) => do
        let (most, rest) ← costLimit place
        let least := if includesLeast then least else least + 1
        if most < (if includesMost then least else least + 1) then .error ⟨.badCost, place⟩
        else return some ({ t with bounded := kind :: t.bounded }, rest)
  | _ => return none

/-- The terms of an equation: the kinds with their costs. The number bounds the terms. -/
def costTerms? : Nat → List Char → List Char → Except Stop (Option (List Char))
  | 0, _, _ => .ok none
  | bound + 1, kinds, s =>
    match s.dropWhile Char.isDigit with
    | kind :: rest =>
      if !(['d', 'i', 's'].contains kind) then .ok none
      else if kinds.contains kind then .error ⟨.repeatedCost, rest⟩
      else
        match rest with
        | '+' :: rest => costTerms? bound (kind :: kinds) rest
        | rest => .ok (some rest)
    | [] => .ok none

/-- An equation: the sum of the costs has an upper bound. -/
def equation? (t : Tolerance) (s : List Char) :
    Except Stop (Option (Tolerance × List Char)) := do
  if t.hasEquation then .error ⟨.severalEquations, s⟩
  else
    match ← costTerms? 4 [] s with
    | none => return none
    | some rest =>
      match comparison? rest with
      | none => return none
      | some (inclusive, rest) => do
        let (most, rest) ← costLimit rest
        if !inclusive && most = 0 then .error ⟨.badCost, rest⟩
        else return some ({ t with hasEquation := true }, rest)

/-- One thing that a tolerance says: bounds for a kind, or failing that an equation. -/
def toleranceItem? (t : Tolerance) (s : List Char) :
    Except Stop (Option (Tolerance × List Char)) := do
  let bounds ← match s with
    | [] => .ok none
    | c :: rest =>
      if c.isAlpha then kindBound? t c rest
      else if c.isDigit then kindBounds? t s
      else .ok none
  match bounds with
  | some item => return some item
  | none => equation? t s

/-- The things that a tolerance says, divided by commas. The number bounds them. -/
def toleranceItems? : Nat → Tolerance → List Char → Except Stop (Option (List Char))
  | 0, _, _ => .ok none
  | bound + 1, t, s =>
    match toleranceItem? t s with
    | .error stop => .error stop
    | .ok none => .ok none
    | .ok (some (t, ',' :: rest)) => toleranceItems? bound t rest
    | .ok (some (_, rest)) => .ok (some rest)

/-- Which characters may be put in: one, a class or a set. -/
def toleranceTest (bound : Nat) : List Char → Except Stop (List Char)
  | [] => .error ⟨.setExpected, []⟩
  | '\\' :: rest => (escape false rest).map Prod.snd
  | '[' :: rest => (bracketSet bound rest).map Prod.snd
  | c :: rest =>
    if ['(', ')', '|', '?', '*', '+', '{', '^', '$', '#'].contains c then
      .error ⟨.setExpected, rest⟩
    else .ok rest

/-- What follows a tolerance in braces, if one comes after the opening one. -/
def tolerance? (bound : Nat) (s : List Char) : Except Stop (Option (List Char)) := do
  match ← toleranceItems? 6 ⟨[], false⟩ s with
  | none => return none
  | some rest =>
    let rest ← match rest with
      | ':' :: rest => toleranceTest bound rest
      | rest => .ok rest
    match rest with
    | '}' :: after => return some after
    | rest => .error ⟨.missingBrace, rest⟩

end Regex

end Subword
