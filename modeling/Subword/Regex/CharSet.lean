import Subword.Text.Block
import Subword.Text.Case
import Subword.Text.Property
import Subword.Text.Script

/-!
# Character sets

What a single position of a pattern accepts: one character, a range, a class
of characters, and sets built from these.

A set can be taken without regard to case. A character or a range then accepts
whatever has a case variant in it. A class that tells capitals from small
letters accepts the letters of any case when it stands alone; as one member of
a union it accepts, like a range, whatever has a case variant in it, and the
complement of a member accepts what has none. A complement of the whole is
taken at the end.

## Main definitions

* `CharClass`: Classes given by a property of characters.
* `CharSet`: Sets of characters.
* `CharSet.contains`: Membership.
* `CharSet.containsCaseless`: Membership without regard to case.
* `CharSet.joined`: The union of sets, as it is written in a pattern.
-/

namespace Subword

/-- A class of characters that has a name in patterns. -/
inductive CharClass where
  | category (c : Text.Category)
  | group (g : Text.Category.Group)
  /-- Upper, lower and title case letters. -/
  | casedLetter
  /-- Every code point with a character. -/
  | assigned
  | script (s : Text.Script)
  /-- The characters that a script has a use for. -/
  | usedIn (s : Text.Script)
  /-- The code points of a block. -/
  | block (first last : Nat)
  /-- The code points outside all blocks. -/
  | noBlock
  /-- The characters that have a property, or that have it not. -/
  | property (p : Text.Property) (wanted : Bool)
  deriving DecidableEq, Repr

namespace CharClass

/-- The characters that words are made of. -/
def word : CharClass := property .word true

/-- Decimal digits. -/
def digit : CharClass := category .nd

/-- White space. -/
def space : CharClass := property .whiteSpace true

/-- The ideographs. -/
def han : CharClass := script ⟨"Hani"⟩

/-- Whether a character belongs to a class. -/
def contains : CharClass → Char → Bool
  | category k, c => Text.laterCategory c = k
  | group g, c => (Text.laterCategory c).group = g
  | casedLetter, c =>
    match Text.laterCategory c with
    | .lu | .ll | .lt => true
    | _ => false
  | assigned, c => Text.laterCategory c != .cn
  | script s, c => Text.script c = s
  | usedIn s, c => s.uses c
  | block first last, c => first ≤ c.toNat && c.toNat ≤ last
  | noBlock, c => !Text.blocks.any fun b => b.first ≤ c.toNat && c.toNat ≤ b.last
  | property p wanted, c => p.holds c = wanted

/-- A class without regard to case: of the classes, only those of one case change. -/
def caseless : CharClass → CharClass
  | category .lu | category .ll | category .lt => casedLetter
  | property .uppercase _ | property .lowercase _ => property .cased true
  | k => k

end CharClass

/-- A set of characters. -/
inductive CharSet where
  /-- Every character. -/
  | any
  /-- Every character that does not end a line. -/
  | anyInLine
  | char (c : Char)
  | range (first last : Char)
  | ofClass (k : CharClass)
  | union (a b : CharSet)
  | compl (a : CharSet)
  deriving DecidableEq, Repr

namespace CharSet

/-- Membership in a set. -/
def contains : CharSet → Char → Bool
  | any, _ => true
  | anyInLine, c => c != '\n'
  | char d, c => c = d
  | range first last, c => first ≤ c && c ≤ last
  | ofClass k, c => k.contains c
  | union a b, c => a.contains c || b.contains c
  | compl a, c => !a.contains c

/-- Membership without regard to case in what is one member of a union. -/
def containsVariant : CharSet → Char → Bool
  | union a b, c => a.containsVariant c || b.containsVariant c
  | compl a, c => !(Text.caseVariants c).any a.contains
  | a, c => (Text.caseVariants c).any a.contains

/-- Membership without regard to case. -/
def containsCaseless : CharSet → Char → Bool
  | ofClass k, c => k.caseless.contains c
  | compl a, c => !a.containsCaseless c
  | a, c => a.containsVariant c

/-- Membership without or with regard to case. -/
def accepts (caseless : Bool) (a : CharSet) (c : Char) : Bool :=
  if caseless then a.containsCaseless c else a.contains c

/-- The letters of any kind. -/
def letters : CharSet := ofClass (.group .letter)

/-- The numbers of any kind. -/
def numbers : CharSet := ofClass (.group .number)

/-- White space. -/
def spaces : CharSet := ofClass .space

/-! ## Unions -/

/-- The sets that a union is made of. -/
def members : CharSet → List CharSet
  | union a b => a.members ++ b.members
  | a => [a]

/-- The union of some sets, one after the other. -/
def unionOf : List CharSet → CharSet
  | [] => compl any
  | a :: rest => rest.foldl union a

/-- The character that a set leaves out, if it leaves out one and no other. -/
def missing? : CharSet → Option Char
  | compl (char c) => some c
  | _ => none

/-- Sets that leave out one character each share one complement. -/
def pooled (sets : List CharSet) : List CharSet :=
  match sets.filterMap missing? with
  | c :: d :: more =>
    sets.filter (fun a => a.missing?.isNone) ++ [compl (unionOf ((c :: d :: more).map char))]
  | _ => sets

/-- Whether some class is among the sets with its complement. -/
def listsComplement (sets : List CharSet) : Bool :=
  sets.any fun a =>
    match a with
    | ofClass k => sets.contains (compl (ofClass k))
    | _ => false

/-- The union of sets that a pattern lists side by side. With a class and its complement it
    is every character. -/
def joined (sets : List CharSet) : CharSet :=
  let all := sets.flatMap members
  if listsComplement all then any else unionOf (pooled all)

/-- The characters outside a set that a pattern lists. A set that is every character with its
    complement listed stays so. -/
def outside : CharSet → CharSet
  | any => any
  | a => compl a

end CharSet

end Subword
