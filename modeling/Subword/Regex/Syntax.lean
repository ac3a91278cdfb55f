import Subword.Regex.CharSet

/-!
# Regular expressions

The expressions that split patterns are written in. Which of several possible
matches is meant matters as much as whether there is one, so alternatives are
ordered, and a repetition says in which order it tries its counts.

Groups capture nothing here: a pattern is only asked for whole matches. A group
still stands for itself, while what is merely put in parentheses is part of what
is around it: single characters that are alternatives of each other make up one
set, and a set that leaves out one character shares its complement with others
of that kind.

## Main definitions

* `Regex`: An expression.
* `Regex.Counts`: How often, and in which order of counts, a part is repeated.
* `Regex.alts`, `Regex.seqs`: Alternatives and sequences of any number of parts.
-/

namespace Subword

namespace Regex

/-- The order in which a repetition tries its counts. -/
inductive Mode where
  /-- The greatest count first. -/
  | greedy
  /-- The least count first. -/
  | reluctant
  /-- The count that is tried first when greedy, and no other. -/
  | possessive
  deriving DecidableEq, Repr

/-- The bounds of a repetition and its mode. No greatest count means that there is none. -/
structure Counts where
  least : Nat
  most : Option Nat
  mode : Mode
  deriving DecidableEq, Repr

namespace Counts

/-- Any number of times. -/
def star : Counts := ⟨0, none, .greedy⟩

/-- At least once. -/
def plus : Counts := ⟨1, none, .greedy⟩

/-- At most once. -/
def opt : Counts := ⟨0, some 1, .greedy⟩

/-- Whether one more repetition is allowed after so many. -/
def allowsMore (counts : Counts) (done : Nat) : Bool :=
  match counts.most with
  | none => true
  | some most => done < most

/-- The number of repetitions so far, as far as it matters for those to come: without a
    greatest count it is enough to know that the least is reached. -/
def settled (counts : Counts) (done : Nat) : Nat :=
  match counts.most with
  | none => min counts.least done
  | some _ => done

end Counts

end Regex

/-- A regular expression. -/
inductive Regex where
  /-- Matches the empty text. -/
  | empty
  /-- Matches one character of a set, without or with regard to case. -/
  | one (caseless : Bool) (s : CharSet)
  | seq (r s : Regex)
  /-- The first expression, and failing that the second. -/
  | alt (r s : Regex)
  | many (counts : Regex.Counts) (r : Regex)
  /-- Matches the empty text where the expression matches, or where it does not. -/
  | look (wanted : Bool) (r : Regex)
  /-- The first match of the expression, and no other. -/
  | atomic (r : Regex)
  /-- A group: what is inside it is not merged with what is around. -/
  | group (r : Regex)
  /-- Matches the empty text at the beginning. -/
  | start
  /-- Matches the empty text at the end, and in front of a line feed at the end. -/
  | finish
  deriving DecidableEq, Repr

namespace Regex

/-- One character of a set, with regard to case. -/
abbrev ofSet (s : CharSet) : Regex := one false s

/-- One expression after the other. -/
def seqs : List Regex → Regex
  | [] => empty
  | [r] => r
  | r :: rest => seq r (seqs rest)

/-- The alternatives that an expression consists of. -/
def alternatives : Regex → List Regex
  | alt r s => alternatives r ++ alternatives s
  | r => [r]

/-- The set of an alternative that can be merged with its neighbours. -/
def mergeable? : Regex → Option (Bool × CharSet)
  | one _ .any => none
  | one _ .anyInLine => none
  | one caseless s => some (caseless, s)
  | _ => none

/-- The set that some neighbouring alternatives make up. -/
def merged (caseless : Bool) (sets : List CharSet) : Regex :=
  match sets.eraseDups with
  | [s] => one caseless s
  | sets => one caseless (.joined sets)

/-- The set that waiting sets make up, in front of more alternatives. The sets are in
    reverse. -/
def mergedOnto (caseless : Bool) (sets : List CharSet) (rest : List Regex) : List Regex :=
  if sets.isEmpty then rest else merged caseless sets.reverse :: rest

/-- Merges single characters that are neighbours and treat case alike. The sets in `sets` are
    waiting to be merged with more, in reverse. -/
def mergeFrom (caseless : Bool) (sets : List CharSet) : List Regex → List Regex
  | [] => mergedOnto caseless sets []
  | r :: rest =>
    match mergeable? r with
    | none => mergedOnto caseless sets (r :: mergeFrom false [] rest)
    | some (caseless', s) =>
      if caseless = caseless' then mergeFrom caseless (s :: sets) rest
      else mergedOnto caseless sets (mergeFrom caseless' [s] rest)

/-- Some expressions as alternatives, in order, without merging any. -/
def choice : List Regex → Regex
  | [] => empty
  | [r] => r
  | r :: rest => alt r (choice rest)

/-- Some expressions as alternatives, in order. -/
def alts (rs : List Regex) : Regex :=
  choice (mergeFrom false [] (rs.flatMap alternatives))

/-- What matches nowhere. -/
def never : Regex := ofSet (.compl .any)

/-- Whether an expression can only match the empty text. -/
def isEmpty : Regex → Bool
  | empty => true
  | seq r s => r.isEmpty && s.isEmpty
  | alt r s => r.isEmpty && s.isEmpty
  | many _ r => r.isEmpty
  | look _ r => r.isEmpty
  | atomic r => r.isEmpty
  | group r => r.isEmpty
  | _ => false

/-- A fixed text. -/
def word (text : String) : Regex :=
  seqs (text.toList.map fun c => ofSet (.char c))

end Regex

end Subword
