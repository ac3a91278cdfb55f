import Subword.Regex.Scan

/-!
# Groups

What an opening parenthesis begins: a group, with a name or without, an
expression that is only held together, one that is looked for ahead, one whose
first match is final, a comment, flags, a condition, or a reference to a group
that is repeated here.

References, conditions and looks back are read and checked but have no
counterpart among the expressions.

## Main definitions

* `Level`: The readers for the inside of a group.
* `parenthesis`: Reads what an opening parenthesis begins.
-/

namespace Subword

namespace Regex

open Reading

/-- The readers for the inside of a group: of an expression with its alternatives, and of a
    single alternative. -/
structure Level where
  expression : Flags → Reading Regex
  sequence : Flags → Reading Regex

/-- The inside of a group and its closing parenthesis. -/
def closed (level : Level) (flags : Flags) : Reading Regex := do
  let r ← level.expression flags
  expect ')'
  return r

/-- A group with a name or without, after what announces it. -/
def captured (level : Level) (flags : Flags) : Reading Regex := do
  let r ← closed level flags
  update Scan.closeGroup
  return group r

/-- A group with a name, which comes next. -/
def namedGroup (level : Level) (flags : Flags) : Reading Regex := do
  let name ← leaf (groupName false)
  update (·.openGroup name)
  expect '>'
  captured level flags

/-- A part that is read and has no counterpart. -/
def withoutCounterpart (place : List Char) (reading : Reading Regex) : Reading Regex := do
  let _ ← reading
  unsupported place

/-- The rest of a comment, up to its closing parenthesis, which a backslash in front makes
    part of the comment. -/
def commentEnd : List Char → List Char
  | [] => []
  | '\\' :: [] => []
  | '\\' :: _ :: rest => commentEnd rest
  | c :: rest => if c = ')' then c :: rest else commentEnd rest

/-- A comment after its number sign. -/
def comment : Reading Unit := do
  goTo (commentEnd (← rest))
  expect ')'

/-- A group that is repeated here, by number or name, after what announces it. -/
def call (place : List Char) (target : Nat ⊕ List Char) : Reading Regex := do
  expect ')'
  update (·.refer ⟨target, true, false, place⟩)
  unsupported place

/-- A group that is repeated here, by name. -/
def callByName (place : List Char) : Reading Regex := do
  let name ← leaf (groupName false)
  call place (.inr name)

/-- A group that is repeated here, by the number of groups up to it. -/
def callRelative (place : List Char) (forward : Bool) : Reading Regex := do
  let s ← rest
  let offset := numberIn 10 (s.takeWhile Char.isDigit)
  goTo (s.dropWhile Char.isDigit)
  let groups := (← get).groups
  if forward then
    if groups + offset = 0 then fail .relativeGroup else call place (.inl (groups + offset))
  else if groups + 1 ≤ offset then fail .relativeGroup
  else call place (.inl (groups + 1 - offset))

/-- What follows the letter P: a name for a group, a group that was matched before, or one
    that is repeated here. -/
def extension (level : Level) (flags : Flags) : Reading Regex := do
  let place ← rest
  match place with
  | '<' :: s => do
    goTo s
    namedGroup level flags
  | '=' :: s => do
    goTo s
    let name ← leaf (groupName true)
    expect ')'
    if (← get).isUnclosed name then failAt .openGroup place
    else
      update (·.refer ⟨.inr name, false, false, place⟩)
      unsupported place
  | '>' :: s => do
    goTo s
    callByName place
  | '&' :: s => do
    goTo s
    callByName place
  | _ => fail .unknownExtension

/-- The two alternatives of a condition and the closing parenthesis, and whether they are more
    than empty. -/
def branches (level : Level) (flags : Flags) : Reading Bool := do
  let yes ← level.sequence flags
  let no ← if ← passes '|' then level.sequence flags else pure empty
  expect ')'
  return !(yes.isEmpty && no.isEmpty)

/-- A condition after its opening parenthesis: whether a group has matched, or whether
    something comes next. -/
def condition (level : Level) (flags : Flags) : Reading Regex := do
  let place ← rest
  let looks := fun (s : List Char) => do
    goTo s
    let _ ← closed level flags
    let _ ← branches level flags
    unsupported place
  match place with
  | '?' :: '=' :: s => looks s
  | '?' :: '!' :: s => looks s
  | '?' :: '<' :: '=' :: s => looks s
  | '?' :: '<' :: '!' :: s => looks s
  | '?' :: _ => fail .conditionExpected
  | _ => do
    let name ← leaf (groupName true)
    expect ')'
    update (·.refer ⟨.inr name, false, name = "DEFINE".toList, place⟩)
    if ← branches level flags then unsupported place
    else
      -- A condition on which nothing depends is dropped, so its group need not exist.
      update Scan.forgetReference
      return empty

/-- The alternatives of a group in which each of them numbers its groups from the same number.
    The first number bounds the alternatives; the greatest number of groups so far is given. -/
def resetBranches (level : Level) (flags : Flags) (before : Nat) :
    Nat → Nat → List Regex → Reading Regex
  | 0, _, done => pure (alts done.reverse)
  | bound + 1, most, done => do
    let r ← level.sequence flags
    let most := max most (← get).groups
    if ← passes '|' then
      update fun scan => { scan with groups := before }
      resetBranches level flags before bound most (r :: done)
    else
      update fun scan => { scan with groups := most }
      expect ')'
      return alts (r :: done).reverse

/-- Flags, after the question mark, and the expression they are for, if they are not for the
    whole pattern. -/
def flagged (level : Level) (flags : Flags) : Reading (Option Regex) := do
  let place ← rest
  let (on, s) := Flag.readMany place
  let off ← match s with
    | '-' :: s => do
      let (off, s) := Flag.readMany s
      goTo s
      if off.isEmpty then fail .noFlagsOff else pure off
    | s => do
      goTo s
      pure []
  let more := on.filter fun flag => !flags.whole.contains flag
  if off.any Flag.isForWhole then fail .globalFlagOff
  else if on.any off.contains then fail .flagOnAndOff
  else if more.any Flag.isForWhole then
    restart (more.filter Flag.isForWhole ++ flags.whole)
  else if ← passes ':' then
    if Flag.changeReading on then failAt .unsupported place
    let r ← closed level (flags.switch on off)
    if on.all Flag.isSupported then return some r
    else return some (← unsupported place)
  else if ← passes ')' then
    if !off.isEmpty then fail .flagsOff
    else if !more.isEmpty then restart (more ++ flags.whole)
    else return none
  else fail .unknownExtension

/-- What follows a parenthesis and a question mark. A comment and flags for the whole pattern
    are no part of the sequence they stand in. -/
def special (level : Level) (flags : Flags) (bound : Nat) : Reading (Option Regex) := do
  let place ← rest
  match place with
  | [] => flagged level flags
  | c :: s =>
    let after {α : Type} (reading : Reading α) : Reading α := do
      goTo s
      reading
    match c with
    | '<' =>
      match s with
      | '=' :: s => do
        goTo s
        some <$> withoutCounterpart place (closed level flags)
      | '!' :: s => do
        goTo s
        some <$> withoutCounterpart place (closed level flags)
      | _ => some <$> after (namedGroup level flags)
    | '=' => (fun r => some (look true r)) <$> after (closed level flags)
    | '!' => (fun r => some (look false r)) <$> after (closed level flags)
    | 'P' => some <$> after (extension level flags)
    | '#' => (fun _ => none) <$> after comment
    | '(' => some <$> after (condition level flags)
    | '>' => (fun r => some (atomic r)) <$> after (closed level flags)
    | '|' => do
      goTo s
      let before := (← get).groups
      some <$> resetBranches level flags before bound before []
    | 'R' => some <$> after (call place (.inl 0))
    | '&' => some <$> after (callByName place)
    | c =>
      if c.isDigit then do
        goTo (place.dropWhile Char.isDigit)
        some <$> call place (.inl (numberIn 10 (place.takeWhile Char.isDigit)))
      else if (c = '+' || c = '-') && (s.head?.any Char.isDigit) then
        some <$> after (callRelative place (c = '+'))
      else flagged level flags

/-- A verb, after the asterisk. -/
def verb (place : List Char) : Reading Regex := do
  let (name, s) := upToClose place
  if [['F'], "FAIL".toList, "PRUNE".toList, "SKIP".toList].contains name then do
    goTo s
    expect ')'
    unsupported place
  else failAt .unknownVerb place

/-- What an opening parenthesis begins. -/
def parenthesis (level : Level) (flags : Flags) (bound : Nat) : Reading (Option Regex) := do
  let opened := do
    update (·.openGroup none)
    some <$> captured level flags
  match ← rest with
  | '?' :: s => do
    goTo s
    special level flags bound
  | '*' :: c :: s => if Text.isLetter c then some <$> verb (c :: s) else opened
  | _ => opened

end Regex

end Subword
