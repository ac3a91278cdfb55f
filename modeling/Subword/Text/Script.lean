import Subword.Text.Script.Table

/-!
# Scripts

The script of a character, and the scripts that a character is used in: those
are more when writers of several languages share it.

## Main definitions

* `Script`: A script, by its code of four letters.
* `script`: The script of a character.
* `Script.uses`: Whether a script has a use for a character.
* `Script.named?`: The script with a given name.
-/

namespace Subword

namespace Text

/-- A script, by its code of four letters. -/
structure Script where
  code : String
  deriving DecidableEq, Repr

namespace Script

/-- The script of code points without a character. -/
def unknown : Script := ⟨"Zzzz"⟩

/-- The script with a given name or code, in capitals and without separators. -/
def named? (key : String) : Option Script :=
  (names.find? fun entry => entry.2.contains key).map fun entry => ⟨entry.1⟩

end Script

/-- The script of a character. -/
def script (c : Char) : Script :=
  match Span.find? Script.table c.toNat with
  | none => .unknown
  | some span => ⟨span.value⟩

/-- Whether a script has a use for a character: as one of its own, or as one it shares. -/
def Script.uses (s : Script) (c : Char) : Bool :=
  match Span.find? sharedTable c.toNat with
  | none => script c = s
  | some span => span.value.contains s.code

end Text

end Subword
