import Subword.Regex.CharSet
import Subword.Regex.Problem

/-!
# Names of character classes

A class is named by a property, a property and a value, or a value alone. A
value alone is looked up among the categories, the scripts and the blocks, in
this order, and a name may say in front that it is a property, a script or a
block. Case, blanks, hyphens and low lines do not matter.

## Main definitions

* `CharClass.key`: A name without the differences that do not matter.
* `CharClass.named`: The class with a given name.
-/

namespace Subword

namespace CharClass

open Regex (Problem)

/-- A name in capitals and without blanks, hyphens and low lines. -/
def key (name : List Char) : String :=
  String.ofList ((name.filter fun c => c ≠ ' ' && c ≠ '-' && c ≠ '_').map Char.toUpper)

/-- The categories and their unions by name. -/
def categoryNames : List (List String × CharClass) :=
  [(["L", "L&", "LETTER"], .group .letter), (["M", "M&", "MARK", "COMBININGMARK"], .group .mark),
    (["N", "N&", "NUMBER"], .group .number),
    (["P", "P&", "PUNCTUATION", "PUNCT"], .group .punctuation),
    (["S", "S&", "SYMBOL"], .group .symbol), (["Z", "Z&", "SEPARATOR"], .group .separator),
    (["C", "C&", "OTHER"], .group .other), (["LC", "CASEDLETTER"], casedLetter),
    (["LU", "UPPERCASELETTER"], .category .lu), (["LL", "LOWERCASELETTER"], .category .ll),
    (["LT", "TITLECASELETTER"], .category .lt), (["LM", "MODIFIERLETTER"], .category .lm),
    (["LO", "OTHERLETTER"], .category .lo), (["MN", "NONSPACINGMARK"], .category .mn),
    (["MC", "SPACINGMARK"], .category .mc), (["ME", "ENCLOSINGMARK"], .category .me),
    (["ND", "DECIMALNUMBER", "DIGIT"], .category .nd),
    (["NL", "LETTERNUMBER"], .category .nl), (["NO", "OTHERNUMBER"], .category .no),
    (["PC", "CONNECTORPUNCTUATION"], .category .pc), (["PD", "DASHPUNCTUATION"], .category .pd),
    (["PS", "OPENPUNCTUATION"], .category .ps), (["PE", "CLOSEPUNCTUATION"], .category .pe),
    (["PI", "INITIALPUNCTUATION"], .category .pi),
    (["PF", "FINALPUNCTUATION"], .category .pf), (["PO", "OTHERPUNCTUATION"], .category .po),
    (["SM", "MATHSYMBOL"], .category .sm), (["SC", "CURRENCYSYMBOL"], .category .sc),
    (["SK", "MODIFIERSYMBOL"], .category .sk), (["SO", "OTHERSYMBOL"], .category .so),
    (["ZS", "SPACESEPARATOR"], .category .zs), (["ZL", "LINESEPARATOR"], .category .zl),
    (["ZP", "PARAGRAPHSEPARATOR"], .category .zp), (["CC", "CNTRL", "CONTROL"], .category .cc),
    (["CF", "FORMAT"], .category .cf), (["CS", "SURROGATE"], .category .cs),
    (["CO", "PRIVATEUSE"], .category .co), (["CN", "UNASSIGNED"], .category .cn),
    (["ASSIGNED"], assigned)]

/-- What a property with more than two values says. -/
inductive Aspect where
  | category | script | usedIn | block

/-- The properties with more than two values by name. -/
def aspectNamed? : String → Option Aspect
  | "GC" | "GENERALCATEGORY" => some .category
  | "SC" | "SCRIPT" => some .script
  | "SCX" | "SCRIPTEXTENSIONS" => some .usedIn
  | "BLK" | "BLOCK" => some .block
  | _ => none

/-- The class of the characters without a value of their own. -/
def Aspect.default : Aspect → CharClass
  | .category => .category .cn
  | .script => .script .unknown
  | .usedIn => .usedIn .unknown
  | .block => noBlock

/-- The class for a value of a property, by its name. -/
def Aspect.value? : Aspect → String → Option CharClass
  | .category, name => (categoryNames.find? fun entry => entry.1.contains name).map Prod.snd
  | .script, name => (Text.Script.named? name).map .script
  | .usedIn, name => (Text.Script.named? name).map .usedIn
  | .block, "NOBLOCK" => some noBlock
  | .block, "NB" => some noBlock
  | .block, name =>
    (Text.blocks.find? fun b => b.names.contains name).map fun b => .block b.first b.last

/-- Whether a property is wanted or not, by the name of its value. -/
def truth? : String → Option Bool
  | "YES" | "Y" | "TRUE" | "T" => some true
  | "NO" | "N" | "FALSE" | "F" => some false
  | _ => none

/-- What is left of a name that begins with some letters. -/
def without? (letters name : String) : Option String :=
  if letters.toList.isPrefixOf name.toList then
    some (String.ofList (name.toList.drop letters.length))
  else none

/-- The class with a name that is a value or a property, and whether it is that class or its
    complement. The attempts are made in order. -/
def ofName? (name : String) : Option (Bool × CharClass) :=
  let wanted := fun (k : CharClass) => (true, k)
  let ofProperty := fun name =>
    (Text.Property.named? name).map fun p => wanted (property p true)
  ((Aspect.category.value? name).map wanted).or <|
  ((Aspect.script.value? name).map wanted).or <|
  ((Aspect.block.value? name).map wanted).or <|
  (ofProperty name).or <|
  ((aspectNamed? name).map fun a => (false, a.default)).or <|
  ((without? "IS" name).bind ofProperty).or <|
  ((without? "IS" name).bind fun name => (Aspect.script.value? name).map wanted).or <|
  ((without? "IN" name).bind fun name => (Aspect.block.value? name).map wanted)

/-- The class with a property and a value, both by name. -/
def ofPair (kind value : String) : Except Problem (Bool × CharClass) :=
  let found (k : Option CharClass) : Except Problem (Bool × CharClass) :=
    match k with
    | some k => .ok (true, k)
    | none => .error .unknownPropertyValue
  match aspectNamed? kind, Text.Property.named? kind with
  | some a, _ => found (a.value? value)
  | none, some p => found ((truth? value).map (.property p))
  | none, none => .error .unknownProperty

/-- The class with a name, which may be qualified, and whether it is that class or its
    complement. -/
def named (kind? : Option (List Char)) (name : List Char) :
    Except Problem (Bool × CharClass) :=
  match kind? with
  | some kind => ofPair (key kind) (key name)
  | none =>
    match ofName? (key name) with
    | some k => .ok k
    | none => .error .unknownProperty

/-- The class with a name that is given inside a set in its own brackets. Some of these names
    mean the characters of the basic range only. -/
def namedInBrackets (kind? : Option (List Char)) (name : List Char) :
    Except Problem (Bool × CharClass) :=
  match kind? with
  | none =>
    if ["ALNUM", "DIGIT", "PUNCT", "XDIGIT"].contains (key name) then
      named none ("POSIX".toList ++ name)
    else named none name
  | some _ => named kind? name

end CharClass

end Subword
