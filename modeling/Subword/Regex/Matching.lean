import Subword.Regex.Ends
import Subword.Regex.Lead

/-!
# Matching

A match that starts at a place is the preferred one of those that end there.
Successive matches follow each other from left to right. After an empty match
the next one may start at the same place, but it must then take a character.

## Main definitions

* `matchAt`: The end of the match that starts at a place.
* `findAll`: The successive matches in a text.
-/

namespace Subword

namespace Regex

/-- Whether a match may begin at a place, as far as a gate can tell. -/
def opens (gate : Option CharSet) (c : Cursor) : Bool :=
  match gate, c.rest with
  | none, _ => true
  | some _, [] => false
  | some s, x :: _ => s.containsCaseless x

/-- The end of the match that starts at a place. When it must advance, the empty match is not
    taken. -/
def matchAt (bound : Nat) (r : Regex) (mustAdvance : Bool) (c : Cursor) : Option Cursor :=
  (ends bound r c).find? fun d => !(mustAdvance && d.passed = c.passed)

/-- The matches from a place on, after those in `done`, which are in reverse. Each step takes
    a character or makes the next one take it, so twice the length of the text bounds them. -/
def findOnto (bound : Nat) (r : Regex) (gate : Option CharSet) :
    Nat → List (List Char) → Bool → Cursor → List (List Char)
  | 0, done, _, _ => done.reverse
  | steps + 1, done, mustAdvance, c =>
    match if opens gate c then matchAt bound r mustAdvance c else none with
    | some d => findOnto bound r gate steps (c.between d :: done) (d.passed = c.passed) d
    -- Nothing starts here, so the search goes on one character further.
    | none =>
      match c.rest with
      | [] => done.reverse
      | _ :: rest => findOnto bound r gate steps done false ⟨rest, c.passed + 1⟩

/-- The successive matches of an expression in a text. -/
def findAll (r : Regex) (s : List Char) : List (List Char) :=
  findOnto s.length r r.gate? (2 * s.length + 2) [] false (.ofText s)

end Regex

end Subword
