import Subword.Text.Case.Table

/-!
# Case

Lower case of a text, and the relation between letters that differ in case
only.

Lower case works letter by letter with two exceptions. The dotted capital I
becomes two characters. The capital sigma becomes a final sigma at the end of a
word, which is a matter of context: a cased letter comes before it and none
after it, where characters that are transparent to case do not count. The walk
over the text therefore carries one bit, whether the last character that counts
was cased.

## Main definitions

* `lower`: A text in lower case.
* `fold`: The representative of all characters that differ in case only.
* `caseVariants`: The characters that a caseless pattern takes for a character.
* `capitals`, `capitalsJoined`: A text as it is compared with names in capitals.
-/

namespace Subword

namespace Text

namespace Case

/-- Where a case table moves a code point. -/
def move (table : Array (Span Shift)) (point : Nat) : Nat :=
  match Span.find? table point with
  | none => point
  | some span =>
    if (point - span.first) % span.value.stride = 0 then
      span.value.image + (point - span.first)
    else point

/-- The code points of a table's span that move to a given code point. -/
def sources (span : Span Shift) (image : Nat) : List Nat :=
  let point := span.first + (image - span.value.image)
  if span.value.image ≤ image && point ≤ span.last &&
      (point - span.first) % span.value.stride = 0 then [point]
  else []

end Case

/-- Whether a character has a case, and is not transparent to it. -/
def isCased (c : Char) : Bool :=
  Span.covers Case.casedTable c.toNat

/-- Whether case rules look through a character. -/
def isTransparent (c : Char) : Bool :=
  Span.covers Case.transparentTable c.toNat

/-- The lower case of a character out of context. -/
def lowerChar (c : Char) : List Char :=
  if c = 'İ' then ['i', '\u0307'] else [Char.ofNat (Case.move Case.lowerTable c.toNat)]

/-- Whether the first character of a text that counts is cased. -/
def startsCased (s : List Char) : Bool :=
  match s.dropWhile isTransparent with
  | [] => false
  | c :: _ => isCased c

/-- The lower case of a character in its context. -/
def lowerAt (afterCased : Bool) (c : Char) (rest : List Char) : List Char :=
  if c = 'Σ' then
    if afterCased && !startsCased rest then ['ς'] else ['σ']
  else lowerChar c

/-- Lower case of the rest of a text, in front of which stands `done`, reversed. -/
def lowerOnto (done : List Char) (afterCased : Bool) : List Char → List Char
  | [] => done.reverse
  | c :: rest =>
    lowerOnto ((lowerAt afterCased c rest).reverseAux done)
      (if isTransparent c then afterCased else isCased c) rest

/-- A text in lower case. -/
def lower (s : List Char) : List Char :=
  lowerOnto [] false s

/-- The representative of the characters that differ from this one in case only. -/
def fold (c : Char) : Char :=
  Char.ofNat (Case.move Case.foldTable c.toNat)

/-- The characters that fold to the same one as this one does. -/
def foldVariants (c : Char) : List Char :=
  let image := (fold c).toNat
  (image :: Case.foldTable.toList.flatMap (Case.sources · image)).map Char.ofNat

/-- The characters that a caseless pattern takes for this one. The two letters i with and
    without a dot are variants of the plain letter, though not of each other. -/
def caseVariants (c : Char) : List Char :=
  if c = 'I' || c = 'i' then ['I', 'i', 'ı', 'İ'].filter fun d => d = 'I' || d = 'i' ||
    (c = 'I' && d = 'ı') || (c = 'i' && d = 'İ')
  else if c = 'ı' then ['ı', 'I']
  else if c = 'İ' then ['İ', 'i']
  else foldVariants c

/-- The capitals of a character when they are all letters A to Z, and else the character.
    Some letters and ligatures outside the basic range have such capitals. -/
def capital (c : Char) : List Char :=
  if 'a' ≤ c && c ≤ 'z' then [Char.ofNat (c.toNat - 32)]
  else if c = 'ı' then ['I']
  else if c = 'ſ' then ['S']
  else if c = 'ß' then ['S', 'S']
  else if c = 'ﬀ' then ['F', 'F']
  else if c = 'ﬁ' then ['F', 'I']
  else if c = 'ﬂ' then ['F', 'L']
  else if c = 'ﬃ' then ['F', 'F', 'I']
  else if c = 'ﬄ' then ['F', 'F', 'L']
  else if c = 'ﬅ' || c = 'ﬆ' then ['S', 'T']
  else [c]

/-- A text in the form in which it is compared with a name in capitals. -/
def capitals (s : String) : String :=
  String.ofList (s.toList.flatMap capital)

/-- A text in the form in which it is compared with a name in capitals and low lines. -/
def capitalsJoined (s : String) : String :=
  String.ofList ((capitals s).toList.map fun c => if c = '-' then '_' else c)

end Text

end Subword
