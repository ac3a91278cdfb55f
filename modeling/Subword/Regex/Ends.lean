import Std.Data.HashSet
import Subword.Regex.Syntax

/-!
# The ends of matches

A match that starts at a place of a text can end at several places, one of
which is preferred to the others. `Ends` is the list of these places in the
order of preference. Only the first is worked out at once, the others when they
are asked for, since mostly the first will do.

A repetition is tried out with a list of tasks. To enter a round of it at a
place is a task, and so is each further end that the part has in that round.
What can follow a round depends only on the number of rounds so far and on the
place, so a round that was entered before is not entered again; this bounds the
work, however often the part can match the same characters in different ways.

## Main definitions

* `Cursor`: A place in a text.
* `Ends`: Places in the order of preference.
* `ends`: The places where a match of an expression can end.

## Theorems

* `Ends.toList_append`, `Ends.toList_bind`: Alternatives and sequences as lists.
-/

namespace Subword

namespace Regex

/-- A place in a text: the characters from there on, and how many are in front. -/
structure Cursor where
  rest : List Char
  passed : Nat
  deriving DecidableEq, Repr

namespace Cursor

/-- The place at the beginning of a text. -/
def ofText (s : List Char) : Cursor := ⟨s, 0⟩

/-- The characters between a place and a later one. -/
def between (c d : Cursor) : List Char :=
  c.rest.take (d.passed - c.passed)

/-- Whether a place is the end, or in front of a line feed at the end. -/
def isAtFinish (c : Cursor) : Bool :=
  c.rest = [] || c.rest = ['\n']

end Cursor

/-- Places in the order of preference, those after the first on demand. -/
inductive Ends where
  | none
  | some (c : Cursor) (more : Unit → Ends)

namespace Ends

/-- One place. -/
def one (c : Cursor) : Ends :=
  some c fun _ => none

/-- The places of a list. -/
def ofList : List Cursor → Ends
  | [] => none
  | c :: rest => some c fun _ => ofList rest

/-- All places. -/
def toList : Ends → List Cursor
  | none => []
  | some c more => c :: toList (more ())

/-- The preferred place. -/
def head? : Ends → Option Cursor
  | none => .none
  | some c _ => .some c

/-- Only the preferred place. -/
def first : Ends → Ends
  | none => none
  | some c _ => one c

/-- The first place with a property. -/
def find? (p : Cursor → Bool) : Ends → Option Cursor
  | none => .none
  | some c more => if p c then .some c else find? p (more ())

/-- Some places, and after them some others. -/
def append : Ends → (Unit → Ends) → Ends
  | none, others => others ()
  | some c more, others => some c fun _ => append (more ()) others

/-- The places that can be reached from each of some places. -/
def bind : Ends → (Cursor → Ends) → Ends
  | none, _ => none
  | some c more, f =>
    match f c with
    | none => bind (more ()) f
    | some d others => some d fun _ => append (others ()) fun _ => bind (more ()) f

/-- The places without repetitions, and without those that have as many characters in front as
    one that was seen. -/
def distinct (seen : Std.HashSet Nat) : Ends → Ends
  | none => none
  | some c more =>
    if seen.contains c.passed then distinct seen (more ())
    else some c fun _ => distinct (seen.insert c.passed) (more ())

@[simp] theorem toList_none : toList none = [] := rfl

@[simp] theorem toList_some (c : Cursor) (more : Unit → Ends) :
    toList (some c more) = c :: toList (more ()) := rfl

@[simp] theorem toList_one (c : Cursor) : toList (one c) = [c] := rfl

@[simp] theorem toList_ofList (cs : List Cursor) : toList (ofList cs) = cs := by
  induction cs with
  | nil => rfl
  | cons c rest ih => simp [ofList, ih]

@[simp] theorem toList_append (e : Ends) (others : Unit → Ends) :
    toList (append e others) = toList e ++ toList (others ()) := by
  induction e with
  | none => rfl
  | some c more ih => simp [append, ih]

@[simp] theorem toList_bind (e : Ends) (f : Cursor → Ends) :
    toList (bind e f) = (toList e).flatMap fun c => toList (f c) := by
  induction e with
  | none => rfl
  | some c more ih =>
    cases h : f c with
    | none => simp [bind, h, ih]
    | some d others => simp [bind, h, ih]

theorem find?_eq (p : Cursor → Bool) (e : Ends) : find? p e = (toList e).find? p := by
  induction e with
  | none => rfl
  | some c more ih => by_cases h : p c <;> simp [find?, h, ih]

theorem head?_eq (e : Ends) : head? e = (toList e).head? := by
  cases e <;> rfl

end Ends

/-- The place after one character of a set. -/
def step? (caseless : Bool) (s : CharSet) (c : Cursor) : Option Cursor :=
  match c.rest with
  | [] => none
  | x :: rest => if s.accepts caseless x then some ⟨rest, c.passed + 1⟩ else none

/-! ## Repetitions of one set -/

/-- The places after none, one, two and more characters of a set, the last one first, in
    front of the places `done`. -/
def walkOnto (caseless : Bool) (s : CharSet) (counts : Counts) (count : Nat)
    (done : List Cursor) (passed : Nat) : List Char → List Cursor
  | [] => ⟨[], passed⟩ :: done
  | x :: rest =>
    if counts.allowsMore count && s.accepts caseless x then
      walkOnto caseless s counts (count + 1) (⟨x :: rest, passed⟩ :: done) (passed + 1) rest
    else ⟨x :: rest, passed⟩ :: done

/-- The places where a repetition of a set can end, the last one first. -/
def walk (caseless : Bool) (s : CharSet) (counts : Counts) (c : Cursor) : List Cursor :=
  (walkOnto caseless s counts 0 [] c.passed c.rest).takeWhile fun d =>
    c.passed + counts.least ≤ d.passed

/-- The places that a mode allows, in its order, of places listed from the last one. -/
def Mode.order (mode : Mode) (places : List Cursor) : Ends :=
  match mode with
  | .greedy => .ofList places
  | .reluctant => .ofList places.reverse
  | .possessive => (Ends.ofList places).first

/-! ## Other repetitions -/

/-- What is left to be tried in a repetition. -/
inductive Task where
  /-- A round at a place, after so many rounds. -/
  | enter (count : Nat) (c : Cursor)
  /-- More ends of the round at a place. -/
  | resume (count : Nat) (c : Cursor) (more : Unit → Ends)
  /-- The end of the repetition at a place. -/
  | stop (c : Cursor)

/-- The tasks at the beginning of a round. -/
def roundTasks (part : Cursor → Ends) (counts : Counts) (reluctant : Bool) (count : Nat)
    (c : Cursor) : List Task :=
  let more := if counts.allowsMore count then
      [Task.resume count c fun _ => (part c).distinct ∅]
    else []
  let stop := if counts.least ≤ count then [Task.stop c] else []
  if reluctant then stop ++ more else more ++ stop

/-- The task after an end of a round. A round that takes nothing is the last one, unless more
    are required. -/
def nextTask (counts : Counts) (count : Nat) (c d : Cursor) : Task :=
  if counts.least ≤ count && d.passed = c.passed then .stop d
  else .enter (counts.settled (count + 1)) d

/-- Works on some tasks. The number bounds the steps; in `entered` are the rounds that were
    entered before. -/
def work (part : Cursor → Ends) (counts : Counts) (reluctant : Bool) :
    Nat → Std.HashSet (Nat × Nat) → List Task → Ends
  | 0, _, _ => .none
  | _ + 1, _, [] => .none
  | steps + 1, entered, .stop c :: tasks =>
    .some c fun _ => work part counts reluctant steps entered tasks
  | steps + 1, entered, .enter count c :: tasks =>
    if entered.contains (count, c.passed) then work part counts reluctant steps entered tasks
    else
      work part counts reluctant steps (entered.insert (count, c.passed))
        (roundTasks part counts reluctant count c ++ tasks)
  | steps + 1, entered, .resume count c more :: tasks =>
    match more () with
    | .none => work part counts reluctant steps entered tasks
    | .some d others =>
      work part counts reluctant steps entered
        (nextTask counts count c d :: .resume count c others :: tasks)

/-- The number of steps that are enough for a repetition in a text with `bound` characters
    left. Every pair of a count and a place is entered at most once and has at most as many
    ends as there are places, each of which makes two steps. -/
def stepBound (counts : Counts) (bound : Nat) : Nat :=
  let rounds := counts.most.getD counts.least + 1
  2 * rounds * (bound + 1) * (bound + 2) + 2

/-- The places where a repetition of a part can end. -/
def repetition (part : Cursor → Ends) (counts : Counts) (bound : Nat) (c : Cursor) : Ends :=
  let places := fun reluctant =>
    work part counts reluctant (stepBound counts bound) ∅ [.enter 0 c]
  match counts.mode with
  | .greedy => places false
  | .reluctant => places true
  | .possessive => (places false).first

/-! ## All expressions -/

/-- The places where a match of an expression can end. The number is at least the length of
    the text. -/
def ends (bound : Nat) : Regex → Cursor → Ends
  | empty, c => .one c
  | one caseless s, c =>
    match step? caseless s c with
    | none => .none
    | some d => .one d
  | seq r s, c => (ends bound r c).bind (ends bound s)
  | alt r s, c => (ends bound r c).append fun _ => ends bound s c
  | many counts (one caseless s), c => counts.mode.order (walk caseless s counts c)
  | many counts r, c => repetition (ends bound r) counts bound c
  | look wanted r, c => if (ends bound r c).head?.isSome = wanted then .one c else .none
  | atomic r, c => (ends bound r c).first
  | group r, c => ends bound r c
  | start, c => if c.passed = 0 then .one c else .none
  | finish, c => if c.isAtFinish then .one c else .none

end Regex

end Subword
