import Subword.Error
import Subword.Text.Case

/-!
# Encoding options

The options of an encoding: a cap on its length, case, wrapping, and the sides
and width of padding. Options come as document values and are checked in a
fixed order, the first fault winning: the cap, the side of padding, the side of
truncation, the width policy, and last that padding to the cap has a cap.

What is checked is part of the type, so whoever has options can rely on it.

## Main definitions

* `Side`, `Padding`: A side of a sequence, and a policy for the width of a batch.
* `Config`: Options that have been checked.
* `Config.Options`: Options as they come.
* `Config.ofOptions`: The check.
-/

namespace Subword

/-- A side of a sequence. -/
inductive Side where
  | left | right
  deriving DecidableEq, Repr, Inhabited

/-- How wide the rows of a batch are made. -/
inductive Padding where
  /-- As wide as the longest row. -/
  | longest
  /-- As wide as the cap. -/
  | toCap
  deriving DecidableEq, Repr, Inhabited

namespace Side

/-- The name of a side. -/
def name : Side → String
  | left => "left"
  | right => "right"

/-- The side with a given name, in capitals or not. -/
def ofName (name : String) : Except Error Side :=
  match Text.capitals name with
  | "LEFT" => .ok left
  | "RIGHT" => .ok right
  | _ => .error (.config (.unknownName .side name))

/-- A side is found by its own name. -/
theorem ofName_name (side : Side) : ofName side.name = .ok side := by
  have hleft : Text.capitals "left" = "LEFT" := by decide +kernel
  have hright : Text.capitals "right" = "RIGHT" := by decide +kernel
  cases side with
  | left => simp only [name, ofName, hleft]
  | right => simp only [name, ofName, hright]

end Side

namespace Padding

/-- The name of a policy. -/
def name : Padding → String
  | longest => "longest"
  | toCap => "max_length"

/-- The policy with a given name, in capitals or not, with a hyphen or a low line. -/
def ofName (name : String) : Except Error Padding :=
  match Text.capitalsJoined name with
  | "LONGEST" => .ok longest
  | "MAX_LENGTH" => .ok toCap
  | _ => .error (.config (.unknownName .padding name))

/-- A policy is found by its own name. -/
theorem ofName_name (padding : Padding) : ofName padding.name = .ok padding := by
  have hlongest : Text.capitalsJoined "longest" = "LONGEST" := by decide +kernel
  have hcap : Text.capitalsJoined "max_length" = "MAX_LENGTH" := by decide +kernel
  cases padding with
  | longest => simp only [name, ofName, hlongest]
  | toCap => simp only [name, ofName, hcap]

end Padding

/-- The options of an encoding. -/
structure Config where
  /-- The greatest number of ids, wrapping included. -/
  cap : Option Nat
  lowercase : Bool
  addSpecial : Bool
  paddingSide : Side
  truncationSide : Side
  padding : Padding
  /-- A cap is positive. -/
  cap_pos : ∀ n, cap = some n → 0 < n
  /-- Padding to the cap has a cap. -/
  capped : padding = .toCap → cap ≠ none

namespace Config

/-- The cap when nothing is said about it. -/
def defaultCap : Nat := 512

/-- Options as they come. -/
structure Options where
  cap : Json := .int defaultCap
  lowercase : Bool := false
  addSpecial : Bool := true
  paddingSide : Json := .str "right"
  truncationSide : Json := .str "right"
  padding : Json := .str "longest"

/-- A cap that has been checked. -/
def Cap := { cap : Option Nat // ∀ n, cap = some n → 0 < n }

/-- Checks a cap: a positive integer, or null for none. -/
def checkCap (value : Json) : Except Error Cap :=
  match value with
  | .null => .ok ⟨none, by simp⟩
  | .int (.ofNat (n + 1)) => .ok ⟨some (n + 1), by simp⟩
  | value => .error (.config (.badLength value))

/-- Puts options together that have been checked one by one. -/
def assemble (cap : Cap) (lowercase addSpecial : Bool) (paddingSide truncationSide : Side)
    (padding : Padding) : Except Error Config :=
  if h : padding = .toCap → cap.val ≠ none then
    .ok ⟨cap.val, lowercase, addSpecial, paddingSide, truncationSide, padding, cap.property, h⟩
  else .error (.config .uncappedPadding)

/-- Checks options. -/
def ofOptions (options : Options) : Except Error Config := do
  let cap ← checkCap options.cap
  let paddingSide ← Side.ofName options.paddingSide.display
  let truncationSide ← Side.ofName options.truncationSide.display
  let padding ← Padding.ofName options.padding.display
  assemble cap options.lowercase options.addSpecial paddingSide truncationSide padding

/-- The options when nothing is said. -/
def default : Config where
  cap := some defaultCap
  lowercase := false
  addSpecial := true
  paddingSide := .right
  truncationSide := .right
  padding := .longest
  cap_pos := by simp [defaultCap]
  capped := by simp

instance : Inhabited Config := ⟨default⟩

end Config

end Subword
