import Subword.Tokenizer

/-!
# Batches

Many texts encoded into one rectangle of ids. Rows shorter than the rectangle
is wide are filled up on one side, and a mask of the same shape says which ids
are of the text.

Texts can be shared out among workers. They are put into groups of equal size,
a few per worker, each group is encoded for itself, and the rows are collected
by the number of their group. The order in which workers finish is given here
explicitly, as a list of group numbers, and the collected rows do not depend on
it. Small batches are not shared out unless that is asked for: there the work
of sharing is greater than what it saves.

## Main definitions

* `Batch`: Ids and mask, with the lengths of the rows.
* `Batch.pad`: Rows filled up to one width.
* `Batch.groups`: Texts in groups for some workers.
* `Batch.encodeIn`: Texts encoded into a batch, with tasks that finish in a given order.
* `Batch.encode`: Texts encoded into a batch.

## Theorems

* `Batch.length_fill`: Filling makes a row as wide as asked for.
* `Batch.flatten_groups`: No text is lost, doubled or moved by sharing out.
-/

namespace Subword

/-- A rectangle of ids with its mask. -/
structure Batch (α : Type) where
  rows : List (List α)
  mask : List (List Nat)
  width : Nat
  /-- The lengths of the rows before they were filled up. -/
  lengths : List Nat
  deriving DecidableEq, Repr

/-- When texts are shared out among workers. -/
inductive BatchMode where
  /-- When the batch is large enough. -/
  | auto
  /-- Always. -/
  | batch
  /-- Never. -/
  | off
  deriving DecidableEq, Repr

namespace BatchMode

/-- The name of a mode. -/
def name : BatchMode → String
  | auto => "auto"
  | batch => "batch"
  | off => "off"

/-- All modes, in order. -/
def all : List BatchMode := [auto, batch, off]

/-- The mode with a given name, in capitals or not. -/
def ofName (name : String) : Except Error BatchMode :=
  match Text.capitals name with
  | "AUTO" => .ok auto
  | "BATCH" => .ok batch
  | "OFF" => .ok off
  | _ => .error (.config (.unknownName .mode name))

/-- A mode is found by its own name. -/
theorem ofName_name (mode : BatchMode) : ofName mode.name = .ok mode := by
  have hauto : Text.capitals "auto" = "AUTO" := by decide +kernel
  have hbatch : Text.capitals "batch" = "BATCH" := by decide +kernel
  have hoff : Text.capitals "off" = "OFF" := by decide +kernel
  cases mode with
  | auto => simp only [name, ofName, hauto]
  | batch => simp only [name, ofName, hbatch]
  | off => simp only [name, ofName, hoff]

end BatchMode

namespace Batch

variable {α : Type}

/-- The batch without rows. -/
def empty : Batch α := ⟨[], [], 0, []⟩

/-- A row between the filling on its two sides. -/
def fill (side : Side) (width : Nat) (filler : α) (row : List α) : List α :=
  let filling := List.replicate (width - row.length) filler
  match side with
  | .right => row ++ filling
  | .left => filling ++ row

/-- Filling makes a row as wide as asked for, unless it is wider already. -/
theorem length_fill (side : Side) (width : Nat) (filler : α) (row : List α) :
    (fill side width filler row).length = max width row.length := by
  cases side <;> simp only [fill, List.length_append, List.length_replicate] <;> omega

/-- The width of a batch: that of its longest row, and the cap when rows are filled up to it. -/
def widthOf (config : Config) (rows : List (List α)) : Nat :=
  let longest := (rows.map List.length).foldl max 0
  match config.padding, config.cap with
  | .toCap, some cap => max longest cap
  | _, _ => longest

/-- Rows filled up to one width. The cells may be of any type. Where they are kept as integers of
    64 bits, the filler and the ids of the rows have to fit these. -/
def pad (config : Config) (filler : α) (rows : List (List α)) : Batch α :=
  if rows.isEmpty then empty
  else
    let width := widthOf config rows
    { rows := rows.map (fill config.paddingSide width filler)
      mask := rows.map fun row => fill config.paddingSide width 0 (row.map fun _ => 1)
      width
      lengths := rows.map List.length }

/-- Ids and mask of given shapes as a batch. The shapes must agree. -/
def ofShapes (ids : List α) (idShape : List Nat) (mask : List Nat) (maskShape : List Nat) :
    Except Error (Batch α) :=
  if idShape ≠ maskShape then .error (.shapeMismatch idShape maskShape)
  else
    let width := idShape.getD 1 0
    let row := fun {β : Type} (cells : List β) (i : Nat) => (cells.drop (i * width)).take width
    let numbers := List.range (idShape.getD 0 0)
    .ok ⟨numbers.map (row ids), numbers.map (row mask), width, []⟩

/-! ## Sharing out -/

/-- A list in consecutive groups of a given size; the last one may be smaller. The first number
    bounds the groups. -/
def chop (size : Nat) : Nat → List α → List (List α)
  | _, [] => []
  | 0, _ => []
  | bound + 1, items => items.take size :: chop size bound (items.drop size)

/-- The size of groups when some texts are shared out: two groups per worker, as long as there
    are texts for them. -/
def groupSize (workers count : Nat) : Nat :=
  let tasks := min count (workers * 2)
  max 1 ((count + tasks - 1) / tasks)

/-- Texts in groups for some workers. -/
def groups (workers : Nat) (texts : List α) : List (List α) :=
  chop (groupSize workers texts.length) texts.length texts

/-- Groups put together again are the list. -/
theorem flatten_chop {size bound : Nat} {items : List α} (hs : 0 < size)
    (hb : items.length ≤ bound) : (chop size bound items).flatten = items := by
  induction bound generalizing items with
  | zero =>
    rw [List.eq_nil_of_length_eq_zero (Nat.le_zero.1 hb)]
    rfl
  | succ bound ih =>
    cases items with
    | nil => rfl
    | cons a rest =>
      -- A group takes something away, so the rest fits the smaller bound.
      have hd : ((a :: rest).drop size).length ≤ bound := by
        simp only [List.length_drop, List.length_cons] at hb ⊢
        omega
      simp only [chop, List.flatten_cons, ih hd, List.take_append_drop]

/-- No text is lost, doubled or moved by sharing out. -/
theorem flatten_groups (workers : Nat) (texts : List α) :
    (groups workers texts).flatten = texts :=
  flatten_chop (Nat.lt_of_lt_of_le Nat.zero_lt_one (Nat.le_max_left ..)) (Nat.le_refl _)

/-- What the tasks with the given numbers come to, in the order in which they finish. -/
def finished {β : Type} (task : List α → β) (groups : List (List α)) (order : List Nat) :
    List (Nat × β) :=
  order.filterMap fun number => groups[number]?.map fun group => (number, task group)

/-- Results by the number of their task, whatever the order in which they came. -/
def collect {β : Type} (count : Nat) (results : List (Nat × β)) : List β :=
  (List.range count).filterMap fun number => results.lookup number

variable {S : Type} [Score S]

/-- Texts encoded one after the other. -/
def encodeSerial (t : Tokenizer S) (config : Config) (policy : Option SpecialPolicy)
    (texts : List String) : Outcome (List Encoded) :=
  texts.mapM fun text => t.encodeWith config policy text.toList

/-- Texts encoded in groups, whose tasks finish in a given order. -/
def encodeGrouped (t : Tokenizer S) (config : Config) (policy : Option SpecialPolicy)
    (workers : Nat) (order : List Nat) (texts : List String) : Outcome (List Encoded) := do
  let groups := groups workers texts
  let results := finished (encodeSerial t config policy) groups order
  let rows ← (collect groups.length results).mapM id
  return rows.flatten

/-- Below so many characters a batch is not shared out unless that is asked for. -/
def sharedFrom : Nat := 200000

/-- Whether texts are shared out. -/
def isShared (mode : BatchMode) (workers : Nat) (texts : List String) : Bool :=
  let possible := workers ≠ 1 && 1 < texts.length
  match mode with
  | .off => false
  | .batch => possible
  | .auto =>
    sharedFrom ≤ (texts.map String.length).foldl (· + ·) 0 && workers * 2 ≤ texts.length && possible

/-- The encoded texts, in order. If they are shared out, the tasks finish in a given order. -/
def encodeRows (t : Tokenizer S) (config : Config) (policy : Option SpecialPolicy)
    (workers : Nat) (mode : BatchMode) (order : List Nat) (texts : List String) :
    Outcome (List Encoded) :=
  if isShared mode workers texts then encodeGrouped t config policy workers order texts
  else encodeSerial t config policy texts

/-- What is given as the texts of a batch. -/
inductive Texts where
  | many (texts : List String)
  /-- One text, which is a mistake. -/
  | single (text : String)

/-- Who encodes a batch. -/
structure Plan where
  workers : Nat
  mode : BatchMode

/-- The plan for a number of workers, of which there is always one, and the name of a mode.
    When no number is given, there are as many as there are processors. -/
def Plan.ofNames (processors : Nat) (workers : Option Int) (mode : String) :
    Except Error Plan := do
  let mode ← BatchMode.ofName mode
  let workers := workers.elim (max 1 processors) fun n => max 1 n.toNat
  return ⟨workers, mode⟩

/-- Texts encoded into a batch. If they are shared out, the tasks finish in a given order. -/
def encodeIn (t : Tokenizer S) (plan : Plan) (order : List Nat) (texts : List String)
    (config : Option Config) (policy : Option SpecialPolicy) : Outcome (Batch Nat) :=
  match texts with
  | [] => return empty
  | texts => do
    let config := config.getD t.config
    -- A cap that is too small for any text is reported once, before the work begins.
    let _ ← Outcome.ofExcept (t.room config)
    let rows ← encodeRows t config policy plan.workers plan.mode order texts
    return pad config t.padId (rows.map Encoded.ids)

/-- Texts encoded into a batch. -/
def encode (t : Tokenizer S) (plan : Plan) (texts : Texts) (config : Option Config := none)
    (policy : Option SpecialPolicy := none) : Outcome (Batch Nat) :=
  match texts with
  | .single _ => Outcome.fail .singleText
  | .many texts =>
    let tasks := List.range (groups plan.workers texts).length
    encodeIn t plan tasks texts config policy

end Batch

end Subword
