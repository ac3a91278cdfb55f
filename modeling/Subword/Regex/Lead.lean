import Subword.Regex.Syntax

/-!
# What matches begin with

Before an expression is tried at a place, the next character can tell that no
match begins there. The sets that the first character of a match is taken from
are the leads of an expression. They are put together in one set, the gate: a
search only tries places where the gate accepts the next character.

When some lead disregards case, so does the whole gate. A search can therefore
pass over places where the expression by itself would match: the gate decides
where matches begin, the expression what they are.

There is no gate when a match can be empty, when a lead is every character or
leaves out just one, and when all leads regard case, since a gate would then
change nothing.

## Main definitions

* `Leads`: The sets that a match begins with.
* `leads?`: The leads of an expression.
* `gate?`: The gate of an expression.
-/

namespace Subword

namespace Regex

/-- The sets that the first character of a match is taken from, each with how it takes case.
    A match that can be empty may also go on with what comes next. -/
structure Leads where
  sets : List (Bool × CharSet)
  canBeEmpty : Bool

namespace Leads

/-- What matches only the empty text. -/
def nothing : Leads := ⟨[], true⟩

/-- Either of two. -/
def either (l m : Leads) : Leads :=
  ⟨l.sets ++ m.sets, l.canBeEmpty || m.canBeEmpty⟩

/-- One after the other. -/
def andThen (l m : Leads) : Leads :=
  if l.canBeEmpty then ⟨l.sets ++ m.sets, m.canBeEmpty⟩ else l

/-- The same leads with regard to case. -/
def plain (l : Leads) : Leads :=
  ⟨l.sets.map fun lead => (false, lead.2), l.canBeEmpty⟩

end Leads

/-- One part of a sequence: its leads, if they can be told, and the character that it is, if
    it is no more than that, with how it takes case. -/
structure Part where
  leads? : Option Leads
  char? : Option (Bool × Char)

/-- Whether a character has a variant in another case. -/
def hasCase (c : Char) : Bool :=
  1 < (Text.caseVariants c).length

/-- Whether a run of characters without regard to case has one with a case. Characters
    without a case belong to the run in any event. -/
def runHasCase : List Part → Bool
  | ⟨_, some (true, c)⟩ :: rest => hasCase c || runHasCase rest
  | ⟨_, some (false, c)⟩ :: rest => !hasCase c && runHasCase rest
  | _ => false

/-- The leads of the parts of a longer sequence. A fixed text in which no character has a
    case is taken with regard to case. -/
def leadsFrom? : List Part → Option Leads
  | [] => some .nothing
  | part :: rest =>
    let isPlain := part.char?.isSome && !runHasCase (part :: rest)
    match part.leads? with
    | none => none
    | some l =>
      let l := if isPlain then l.plain else l
      if l.canBeEmpty then (leadsFrom? rest).map l.andThen else some l

/-- The leads of a sequence, given its parts. -/
def sequenceLeads? : List Part → Option Leads
  | [part] => part.leads?
  | parts => leadsFrom? parts

/-- The parts of an expression, as a sequence. -/
def parts : Regex → List Part
  | empty => []
  | one caseless s =>
    match s with
    | .any | .anyInLine | .compl (.char _) => [⟨none, none⟩]
    | .char c => [⟨some ⟨[(caseless, s)], false⟩, some (caseless, c)⟩]
    | _ => [⟨some ⟨[(caseless, s)], false⟩, none⟩]
  | seq r s => parts r ++ parts s
  | alt r s =>
    let both := do return (← sequenceLeads? (parts r)).either (← sequenceLeads? (parts s))
    [⟨both, none⟩]
  | many counts r =>
    let inner := sequenceLeads? (parts r)
    [⟨inner.map fun l => ⟨l.sets, counts.least = 0 || l.canBeEmpty⟩, none⟩]
  | look true r => [⟨sequenceLeads? (parts r), none⟩]
  | look false _ => [⟨some .nothing, none⟩]
  | atomic r => [⟨sequenceLeads? (parts r), none⟩]
  | group r => [⟨sequenceLeads? (parts r), none⟩]
  | start => [⟨some .nothing, none⟩]
  | finish => [⟨some .nothing, none⟩]

/-- The leads of an expression, if they can be told. -/
def leads? (r : Regex) : Option Leads :=
  sequenceLeads? (parts r)

/-- The set without regard to case that the next character must be in for a match to begin. -/
def gate? (r : Regex) : Option CharSet :=
  match leads? r with
  | none => none
  | some l =>
    if l.canBeEmpty || !l.sets.any Prod.fst then none
    else some (.unionOf (l.sets.map Prod.snd).eraseDups)

end Regex

end Subword
