import Subword.Decimal.Number
import Subword.Regex.Group
import Subword.Regex.Quantifier

/-!
# Reading regular expressions

The text of a pattern, read from left to right; what is left marks the place
when something is wrong. An expression is a row of alternatives, each of them a
sequence of items with their quantifiers.

A quantifier belongs to the item just in front of it. It is out of place at the
beginning of a sequence and behind another quantifier; a brace that does not
open a proper pair of bounds is no quantifier but a plain character. A
quantifier on an item that can only match the empty text is dropped, as is one
that asks for exactly one.

Groups nest, and the reader of an expression is handed to the reader of items
for the inside of a group. One number bounds the depth, another the items of a
level; both start above the length of the pattern.

Flags that change how a pattern is read, and numbers that are too long to be
converted, make it one about which nothing is said here.

## Main definitions

* `Regex.read`: The expression that a pattern stands for.
-/

namespace Subword

namespace Regex

open Reading

/-- An expression with a quantifier. -/
def quantify (counts : Counts) (r : Regex) : Regex :=
  if r.isEmpty || (counts.least = 1 && counts.most = some 1) then r else many counts r

/-- An escape as an item of a sequence, after its backslash. -/
def escapeItem (flags : Flags) : Reading Regex := do
  match ← leaf (escape false) with
  | .char c => return one flags.caseless (.char c)
  | .ofClass wanted k => return one flags.caseless (Escape.toSet (.ofClass wanted k))
  | .lineEnd =>
    let breaks := CharSet.joined [.range '\n' '\r', .char '\x85', .range '\u2028' '\u2029']
    return atomic (alts [word "\r\n", ofSet breaks])
  | .start => return start
  | .group number =>
    let scan ← get
    if scan.unclosed.contains number then fail .openGroup
    else
      update (·.refer ⟨.inl number, false, false, scan.rest⟩)
      unsupported scan.rest
  | .namedGroup name place =>
    if (← get).isUnclosed name then
      goTo ('<' :: place)
      return one flags.caseless (.char 'g')
    else
      update (·.refer ⟨.inr name, false, false, place⟩)
      unsupported place
  | .unsupported => unsupported (← rest)

/-- One item of a sequence that is no quantifier. Comments and flags are none. -/
def item (level : Level) (bound : Nat) (flags : Flags) : Reading (Option Regex) := do
  match ← rest with
  | [] => return none
  | c :: s =>
    goTo s
    match c with
    | '\\' => some <$> escapeItem flags
    | '(' => parenthesis level flags bound
    | '[' => return some (one flags.caseless (← leaf (bracketSet bound)))
    | '.' =>
      return some (ofSet (if flags.here.contains .dotAll then .any else .anyInLine))
    | '^' => return some start
    | '$' => return some finish
    | c => return some (one flags.caseless (.char c))

/-- The items of a sequence up to its end. In `done` are the items so far, in reverse, and
    `last` is one more while a quantifier may still follow it. -/
def sequenceOnto (level : Level) (flags : Flags) :
    Nat → List Regex → Option Regex → Reading Regex
  | 0, done, last => pure (seqs (last.toList ++ done).reverse)
  | bound + 1, done, last => do
    let finished := last.toList ++ done
    let plain := do
      match ← item level (bound + 1) flags with
      | some r => sequenceOnto level flags bound finished (some r)
      | none => sequenceOnto level flags bound done last
    match ← rest with
    | [] => return seqs finished.reverse
    | '|' :: _ => return seqs finished.reverse
    | ')' :: _ => return seqs finished.reverse
    | c :: s =>
      match quantifier? (c :: s) with
      | .error stop => failAt stop.problem stop.rest
      | .ok (some (least, most, s)) =>
        match last with
        | none => fail (if done.isEmpty then .nothingToRepeat else .multipleRepeat)
        | some r =>
          let (mode, s) := mode s
          goTo s
          sequenceOnto level flags bound (quantify ⟨least, most, mode⟩ r :: done) none
      | .ok none =>
        if c = '{' then
          match tolerance? (bound + 1) s with
          | .error stop => failAt stop.problem stop.rest
          | .ok none => plain
          | .ok (some rest) =>
            match last with
            | none => fail .nothingToTolerate
            | some r => do
              goTo rest
              let _ ← unsupported (c :: s)
              sequenceOnto level flags bound (r :: done) none
        else plain

/-- Alternatives up to the end of the text or of the group, after those in `done`, which are
    in reverse. -/
def alternativesOnto (level : Level) (flags : Flags) : Nat → List Regex → Reading Regex
  | 0, done => pure (alts done.reverse)
  | bound + 1, done => do
    let r ← sequenceOnto level flags (bound + 1) [] none
    if ← passes '|' then alternativesOnto level flags bound (r :: done)
    else return alts (r :: done).reverse

/-- The readers for a depth. The first number bounds the items of a level, the second the
    depth. -/
def level (bound : Nat) : Nat → Level
  | 0 => ⟨fun _ => pure empty, fun _ => pure empty⟩
  | depth + 1 =>
    let inner := level bound depth
    ⟨fun flags => alternativesOnto inner flags bound [],
      fun flags => sequenceOnto inner flags bound [] none⟩

/-- The expression that a pattern stands for under some flags. -/
def readWith (whole : List Flag) (pattern : List Char) : Except Halt Regex := do
  let bound := pattern.length + 1
  let (r, scan) ← (level bound bound).expression ⟨whole, whole⟩ (.ofPattern pattern)
  match scan.rest, scan.checkReferences with
  | [], .ok () =>
    if whole.all Flag.isSupported then return r else .error (.stop ⟨.unsupported, pattern⟩)
  | [], .error stop => .error (.stop stop)
  | rest, _ => .error (.stop ⟨.unbalancedClose, rest⟩)

/-- The expression that a pattern stands for. Each time that reading starts again, one flag
    more is on, so the first number has to be greater than that of the flags. -/
def readFrom : Nat → List Flag → List Char → Except Stop Regex
  | 0, _, pattern => .error ⟨.unsupported, pattern⟩
  | bound + 1, whole, pattern =>
    match readWith whole pattern with
    | .ok r => .ok r
    | .error (.stop stop) => .error stop
    | .error (.restart whole) =>
      if Flag.changeReading whole then .error ⟨.unsupported, pattern⟩
      else readFrom bound whole pattern

/-- Whether there are enough digits in a pattern for a number that is too long. -/
def hasLongNumber (s : List Char) : Bool :=
  Decimal.mostDigits < s.countP Char.isDigit

/-- The expression that a pattern stands for, or why there is none. -/
def read (pattern : String) : Except Refusal Regex :=
  let s := pattern.toList
  if hasLongNumber s then .error (.ofStop s ⟨.unsupported, s⟩)
  else
    match readFrom 16 [] s with
    | .ok r => .ok r
    | .error stop => .error (.ofStop s stop)

end Regex

end Subword
