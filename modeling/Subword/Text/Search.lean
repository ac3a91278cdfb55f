/-!
# Finding texts in texts

Looking for a text inside another, and for any of several texts at once. A text
that has been found is skipped by counting down its characters, so that every
walk here is a plain recursion on the characters it goes over.

## Main definitions

* `occurs`: Whether a text occurs in another.
* `replace`: A text with every occurrence of another replaced.
* `Segment`: A part of a text: one of some literals, or what stands between them.
* `cut`: A text cut at the literals in it.
-/

namespace Subword

namespace Text

/-- Whether a text occurs in another. -/
def occurs (needle : List Char) : List Char → Bool
  | [] => needle.isEmpty
  | c :: rest => needle.isPrefixOf (c :: rest) || occurs needle rest

/-- Replaces the occurrences of a text in the rest of another, of which some characters are
    yet to be skipped. In front of it stands `done`, reversed. -/
def replaceOnto (needle new : List Char) (done : List Char) (skip : Nat) :
    List Char → List Char
  | [] => done.reverse
  | c :: rest =>
    match skip with
    | skip + 1 => replaceOnto needle new done skip rest
    | 0 =>
      if needle.isPrefixOf (c :: rest) then
        replaceOnto needle new (new.reverseAux done) (needle.length - 1) rest
      else replaceOnto needle new (c :: done) 0 rest

/-- A text with every occurrence of a nonempty text replaced, from left to right. -/
def replace (needle new s : List Char) : List Char :=
  replaceOnto needle new [] 0 s

/-- A part of a text. -/
inductive Segment where
  /-- One of the literals that were looked for. -/
  | literal (s : List Char)
  /-- What stands between literals. -/
  | plain (s : List Char)
  deriving DecidableEq, Repr

/-- Some literals, the longest first and the empty one left out. -/
def longestFirst (literals : List (List Char)) : List (List Char) :=
  (literals.filter fun l => !l.isEmpty).mergeSort fun a b => b.length ≤ a.length

/-- Ends a plain part, given in reverse, behind the parts so far. Empty ones are left out. -/
def endPlain (plain : List Char) (done : List Segment) : List Segment :=
  if plain.isEmpty then done else .plain plain.reverse :: done

/-- Cuts the rest of a text, of which some characters are yet to be skipped. In `done` are the
    parts so far and in `plain` the characters of one that has begun, both in reverse. -/
def cutOnto (literals : List (List Char)) (everywhere : Bool) (done : List Segment)
    (plain : List Char) (skip : Nat) : List Char → List Segment
  | [] => (endPlain plain done).reverse
  | c :: rest =>
    match skip with
    | skip + 1 => cutOnto literals everywhere done plain skip rest
    | 0 =>
      -- The literals stand in order of length, so the first that fits is the longest.
      match literals.find? fun l => l.isPrefixOf (c :: rest) with
      | some l =>
        cutOnto literals everywhere (.literal l :: endPlain plain done) [] (l.length - 1) rest
      | none =>
        if everywhere then cutOnto literals everywhere (endPlain plain done) [c] 0 rest
        else cutOnto literals everywhere done (c :: plain) 0 rest

/-- A text cut at the leftmost literals in it, of those at one place at the longest. The empty
    literal, if it is among them, cuts in front of every character. -/
def cut (literals : List (List Char)) (s : List Char) : List Segment :=
  cutOnto (longestFirst literals) (literals.contains []) [] [] 0 s

end Text

end Subword
