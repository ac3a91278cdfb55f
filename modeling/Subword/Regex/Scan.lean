import Subword.Regex.Escape

/-!
# Scanning a pattern

What a reader of patterns knows while it goes along: the characters that are
left, the flags, the groups so far and the references to groups. A reference
can point forward, so it is checked when the whole pattern has been read.

Some flags hold for the whole pattern wherever they are written. When such a
flag turns up, reading starts again with it turned on.

## Main definitions

* `Flag`: What can be turned on and off.
* `Scan`: The state of a reader.
* `Reading`: A reader.
* `Scan.checkReferences`: Checks the references to groups.
-/

namespace Subword

namespace Regex

/-! ## Flags -/

/-- What can be turned on for a pattern or a part of it. -/
inductive Flag where
  | caseless | dotAll | multiline | verbose | wordBoundaries | fullCase
  | basic | locale | unicode
  | bestMatch | enhanceMatch | leftmostLongest | reverse | oldSyntax | newSyntax
  deriving DecidableEq, Repr

namespace Flag

/-- Reads the letter of a flag. -/
def read? : List Char → Option (Flag × List Char)
  | 'V' :: '0' :: rest => some (oldSyntax, rest)
  | 'V' :: '1' :: rest => some (newSyntax, rest)
  | c :: rest =>
    let flag? := match c with
      | 'a' => some basic
      | 'b' => some bestMatch
      | 'e' => some enhanceMatch
      | 'f' => some fullCase
      | 'i' => some caseless
      | 'L' => some locale
      | 'm' => some multiline
      | 'p' => some leftmostLongest
      | 'r' => some reverse
      | 's' => some dotAll
      | 'u' => some unicode
      | 'w' => some wordBoundaries
      | 'x' => some verbose
      | _ => none
    flag?.map fun flag => (flag, rest)
  | [] => none

/-- Reads the letters of some flags, after those in `done`. The number bounds them. -/
def readManyOnto : Nat → List Flag → List Char → List Flag × List Char
  | 0, done, s => (done, s)
  | bound + 1, done, s =>
    match read? s with
    | none => (done, s)
    | some (flag, rest) => readManyOnto bound (flag :: done) rest

/-- Reads the letters of some flags. -/
def readMany (s : List Char) : List Flag × List Char :=
  readManyOnto s.length [] s

/-- Flags that hold for the whole pattern even when they are written for a part of it. -/
def isForWhole : Flag → Bool
  | bestMatch | enhanceMatch | leftmostLongest | reverse | oldSyntax | newSyntax => true
  | _ => false

/-- Flags that a pattern can be read with. -/
def isSupported : Flag → Bool
  | caseless | dotAll | unicode | oldSyntax => true
  | _ => false

/-- Whether a pattern is read otherwise under some flags: its blanks do not count, its sets nest,
    or the flags contradict each other. -/
def changeReading (flags : List Flag) : Bool :=
  flags.any [verbose, newSyntax, locale].contains ||
    (flags.contains basic && flags.contains unicode)

end Flag

/-- The flags in force: those of the whole pattern, and those of the part being read. -/
structure Flags where
  whole : List Flag
  here : List Flag
  deriving DecidableEq, Repr

namespace Flags

/-- Whether case does not matter. -/
def caseless (flags : Flags) : Bool :=
  flags.here.contains .caseless

/-- The flags after some are turned on and some others off. -/
def switch (flags : Flags) (on off : List Flag) : Flags :=
  { flags with here := (on ++ flags.here).filter fun flag => !off.contains flag }

end Flags

/-! ## Groups -/

/-- A reference to a group by number or name. -/
structure Reference where
  target : Nat ⊕ List Char
  /-- Whether the whole pattern, as number zero, can be meant. -/
  allowsWhole : Bool
  /-- Whether the name need not be known, since it says that nothing is meant. -/
  isOptional : Bool
  /-- The characters left at its place. -/
  rest : List Char

/-- The state of a reader of patterns. -/
structure Scan where
  rest : List Char
  /-- The number of groups so far. -/
  groups : Nat
  /-- The numbers of the groups that are not closed yet, the innermost first. -/
  unclosed : List Nat
  names : List (List Char × Nat)
  /-- The references to groups so far, in reverse. -/
  references : List Reference
  /-- The place of the first part that has no counterpart among the expressions. -/
  unsupported : Option (List Char)

namespace Scan

/-- The state at the beginning of a pattern. -/
def ofPattern (s : List Char) : Scan :=
  ⟨s, 0, [], [], [], none⟩

/-- The number of a group with a name. -/
def numbered? (scan : Scan) (name : List Char) : Option Nat :=
  (scan.names.find? fun entry => entry.1 = name).map Prod.snd

/-- The number that a reference by name or by digits points to, as far as is known. -/
def target? (scan : Scan) (name : List Char) : Option Nat :=
  if name.all Char.isDigit then some (numberIn 10 name) else scan.numbered? name

/-- Whether a reference points to a group that is not closed yet. -/
def isUnclosed (scan : Scan) (name : List Char) : Bool :=
  match scan.target? name with
  | none => false
  | some number => scan.unclosed.contains number

/-- The state after a group is opened. A name that is open already opens a group without a
    number, so that nothing can refer to it. -/
def openGroup (scan : Scan) (name? : Option (List Char)) : Scan :=
  match name?.bind scan.numbered? with
  | some number =>
    let number := if scan.unclosed.contains number then 0 else number
    { scan with unclosed := number :: scan.unclosed }
  | none =>
    let number := scan.groups + 1
    let names := match name? with
      | some name => (name, number) :: scan.names
      | none => scan.names
    { scan with groups := number, unclosed := number :: scan.unclosed, names }

/-- The state after the innermost group is closed. -/
def closeGroup (scan : Scan) : Scan :=
  { scan with unclosed := scan.unclosed.drop 1 }

/-- The state after a reference to a group. -/
def refer (scan : Scan) (reference : Reference) : Scan :=
  { scan with references := reference :: scan.references }

/-- The state after the last reference is taken back. -/
def forgetReference (scan : Scan) : Scan :=
  { scan with references := scan.references.drop 1 }

/-- What is wrong with a reference. -/
def problem? (scan : Scan) (reference : Reference) : Option Problem :=
  let known := fun number =>
    number ≤ scan.groups && (1 ≤ number || reference.allowsWhole)
  match reference.target with
  | .inl number => if known number then none else some .groupReference
  | .inr name =>
    match scan.target? name with
    | some number => if known number then none else some .groupReference
    | none => if reference.isOptional then none else some .unknownGroup

/-- The first reference with which something is wrong, of those in order. -/
def firstProblem? (scan : Scan) : List Reference → Option Stop
  | [] => none
  | reference :: rest =>
    match scan.problem? reference with
    | some problem => some ⟨problem, reference.rest⟩
    | none => firstProblem? scan rest

/-- Checks the references to groups at the end of a pattern, and whether all parts of it have
    a counterpart among the expressions. -/
def checkReferences (scan : Scan) : Except Stop Unit :=
  match scan.firstProblem? scan.references.reverse, scan.unsupported with
  | some stop, _ => .error stop
  | none, some rest => .error ⟨.unsupported, rest⟩
  | none, none => .ok ()

end Scan

/-! ## Readers -/

/-- Why a reader does not go on: something is wrong, or it has to start again with some flags
    for the whole pattern. -/
inductive Halt where
  | stop (stop : Stop)
  | restart (whole : List Flag)

/-- A reader of a part of a pattern. -/
abbrev Reading (α : Type) := StateT Scan (Except Halt) α

namespace Reading

variable {α : Type}

/-- Stops at the place where some characters are left. -/
def failAt (problem : Problem) (rest : List Char) : Reading α := fun _ =>
  .error (.stop ⟨problem, rest⟩)

/-- Stops at the present place. -/
def fail (problem : Problem) : Reading α := fun scan =>
  .error (.stop ⟨problem, scan.rest⟩)

/-- Starts again with some flags for the whole pattern. -/
def restart (whole : List Flag) : Reading α := fun _ =>
  .error (.restart whole)

/-- The characters that are left. -/
def rest : Reading (List Char) := fun scan => .ok (scan.rest, scan)

/-- Goes on where some characters are left. -/
def goTo (rest : List Char) : Reading Unit := fun scan => .ok ((), { scan with rest })

/-- Changes what is known of groups. -/
def update (f : Scan → Scan) : Reading Unit := fun scan => .ok ((), f scan)

/-- A part that needs no knowledge of what comes before it. -/
def leaf (reader : List Char → Except Stop (α × List Char)) : Reading α := fun scan =>
  match reader scan.rest with
  | .error stop => .error (.stop stop)
  | .ok (value, rest) => .ok (value, { scan with rest })

/-- A character that must come next. -/
def expect (c : Char) : Reading Unit := fun scan =>
  match scan.rest with
  | [] => .error (.stop ⟨.missing c, []⟩)
  | d :: rest =>
    if c = d then .ok ((), { scan with rest })
    else .error (.stop ⟨.missing c, d :: rest⟩)

/-- Whether a character comes next, which is then passed. -/
def passes (c : Char) : Reading Bool := fun scan =>
  match scan.rest with
  | d :: rest => if c = d then .ok (true, { scan with rest }) else .ok (false, scan)
  | [] => .ok (false, scan)

/-- What matches nowhere, in place of a part that has no counterpart, which is remembered. -/
def unsupported (place : List Char) : Reading Regex := fun scan =>
  .ok (never, { scan with unsupported := some (scan.unsupported.getD place) })

end Reading

end Regex

end Subword
