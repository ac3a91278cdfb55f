import Subword.Error
import Subword.Numbering
import Subword.Text.Lines

/-!
# Vocabularies

A vocabulary numbers its tokens from zero on and marks some of them as special.
Five special tokens have a slot of their own: the unknown token, which every
vocabulary has, padding, the start and the end of a sequence, and the mask.
Further special tokens have no slot.

What goes into a slot is asked for by id, or by naming candidates, of which the
first that is a token is taken. No candidate being one leaves a slot empty,
which is an error for the unknown token alone.

A vocabulary comes from its tokens in order, from lines, or from a mapping of
tokens to ids. A mapping is accepted when its values are the integers from zero
on, each once; otherwise the first entry that is out of place is reported, or
else the least id that is missing.

## Main definitions

* `SpecialTokens`: The ids of the special tokens.
* `Vocabulary`: Tokens with their ids, and the special ones among them.
* `Vocabulary.ofTokens`, `Vocabulary.ofLines`, `Vocabulary.ofMapping`: The three sources.
* `Vocabulary.get?`, `Vocabulary.lookup`, `Vocabulary.reverse`: From token to id and back.
* `Vocabulary.literals`: The special tokens by name.
-/

namespace Subword

/-- The special tokens that have a slot. -/
inductive Slot where
  | unk | pad | bos | eos | mask
  deriving DecidableEq, Repr

namespace Slot

/-- All slots, in order. -/
def all : List Slot := [unk, pad, bos, eos, mask]

/-- The name of a slot. -/
def name : Slot → String
  | unk => "unk"
  | pad => "pad"
  | bos => "bos"
  | eos => "eos"
  | mask => "mask"

/-- What is asked to go into a slot. -/
inductive Wish where
  | id (n : Int)
  /-- The first of these that is a token. -/
  | oneOf (candidates : List String)

/-- A wish as it is shown in a message. -/
def Wish.show : Wish → String
  | id n => toString n
  | oneOf candidates => " | ".intercalate candidates

end Slot

/-- Wishes for slots, by name. A name without a wish says nothing about its slot. -/
abbrev Wishes := List (String × Option Slot.Wish)

/-- The ids of the special tokens. -/
structure SpecialTokens where
  unk : Nat
  pad : Option Nat
  bos : Option Nat
  eos : Option Nat
  mask : Option Nat
  /-- Special tokens without a slot, or with one as well, in increasing order. -/
  extra : List Nat
  deriving DecidableEq, Repr

/-- Numbers in increasing order, each once. -/
def sortedIds (ids : List Nat) : List Nat :=
  (ids.mergeSort (· ≤ ·)).eraseDups

/-- The ids of all special tokens, in increasing order. -/
def SpecialTokens.ids (s : SpecialTokens) : List Nat :=
  sortedIds (s.unk :: s.pad.toList ++ s.bos.toList ++ s.eos.toList ++ s.mask.toList ++ s.extra)

/-- Tokens with their ids, and the special ones among them. -/
structure Vocabulary where
  tokens : Numbering String
  special : SpecialTokens
  /-- The ids of all special tokens. -/
  specialIds : List Nat
  specialIds_eq : specialIds = special.ids
  /-- Special tokens are tokens. -/
  special_lt : ∀ i ∈ specialIds, i < tokens.size

namespace Vocabulary

/-- The number of tokens. -/
def size (v : Vocabulary) : Nat := v.tokens.size

/-- The id of a token. -/
def get? (v : Vocabulary) (token : String) : Option Nat := v.tokens.get? token

/-- Whether a text is a token. -/
def contains (v : Vocabulary) (token : String) : Bool := v.tokens.contains token

/-- The id of a token, or of the unknown token. -/
def lookup (v : Vocabulary) (token : String) : Nat := (v.get? token).getD v.special.unk

/-- The token with an id. -/
def token? (v : Vocabulary) (id : Nat) : Option String := v.tokens.key? id

/-- The token with an id; ids of other tokenizers are errors. -/
def reverse (v : Vocabulary) (id : Int) : Except Error String :=
  match id with
  | .ofNat n =>
    match v.token? n with
    | some token => .ok token
    | none => .error (.invalidId (.outOfRange id) v.size)
  | .negSucc _ => .error (.invalidId (.outOfRange id) v.size)

/-- The id that a document value stands for. -/
def idOf (v : Vocabulary) (value : Json) : Except Error Int :=
  match value with
  | .int n => .ok n
  | value => .error (.invalidId (.notInteger value) v.size)

/-- Whether an id is that of a special token. -/
def isSpecial (v : Vocabulary) (id : Nat) : Bool := v.specialIds.contains id

/-- Whether a document value is equal to the id of a special token. -/
def isSpecialValue (v : Vocabulary) (value : Json) : Bool :=
  v.specialIds.any fun id => value.equalsInt id

/-- The special tokens with their ids, in the order of the ids. -/
def literals (v : Vocabulary) : List (String × Nat) :=
  v.specialIds.filterMap fun id => (v.token? id).map fun token => (token, id)

theorem unk_mem (v : Vocabulary) : v.special.unk ∈ v.specialIds := by
  rw [v.specialIds_eq]
  simp only [SpecialTokens.ids, sortedIds]
  have h : v.special.unk ∈ (v.special.unk :: v.special.pad.toList ++ v.special.bos.toList ++
      v.special.eos.toList ++ v.special.mask.toList ++ v.special.extra).mergeSort (· ≤ ·) :=
    List.mem_mergeSort.2 (by simp)
  exact List.mem_eraseDups.2 h

/-- The unknown token. -/
def unkToken (v : Vocabulary) : String :=
  have : v.special.unk < v.tokens.keys.size := v.special_lt _ v.unk_mem
  v.tokens.keys[v.special.unk]

/-- A vocabulary in short. -/
def summary (v : Vocabulary) : String :=
  "Vocabulary(size=" ++ toString v.size ++ ", unk=" ++ Text.quote v.unkToken ++ ")"

/-! ## Making vocabularies -/

/-- The id that a wish comes to among some tokens. -/
def resolve (tokens : Numbering String) (slot : String) :
    Option Slot.Wish → Except Error (Option { i : Nat // i < tokens.size })
  | none => .ok none
  | some (.id n) =>
    if h : n.toNat < tokens.size ∧ 0 ≤ n then .ok (some ⟨n.toNat, h.1⟩)
    else .error (.load (.slotOutOfRange slot n) none)
  | some (.oneOf candidates) =>
    .ok <| candidates.findSome? fun candidate =>
      match h : tokens.get? candidate with
      | none => none
      | some i =>
        have hi := (tokens.get?_eq_some_iff candidate i).1 h
        some ⟨i, by
          simp only [Numbering.key?] at hi
          exact (Array.getElem?_eq_some_iff.1 hi).1⟩

/-- The ids that some wishes without a slot come to. -/
def resolveExtra (tokens : Numbering String) (extra : List Slot.Wish) :
    Except Error (List { i : Nat // i < tokens.size }) := do
  let found ← extra.mapM fun wish => resolve tokens "extra" (some wish)
  return found.filterMap id

/-- The names in some wishes that are no slots, in order. -/
def unknownSlots (wishes : Wishes) : List String :=
  let names := Slot.all.map Slot.name
  ((wishes.map Prod.fst).filter fun name => !names.contains name).mergeSort (· ≤ ·)

/-- The wish for a slot. -/
def wishFor (wishes : Wishes) (slot : Slot) : Option Slot.Wish :=
  (wishes.lookup slot.name).join

/-- Special tokens whose ids are in range. -/
structure Resolved (tokens : Numbering String) where
  unk : { i : Nat // i < tokens.size }
  pad : Option { i : Nat // i < tokens.size }
  bos : Option { i : Nat // i < tokens.size }
  eos : Option { i : Nat // i < tokens.size }
  mask : Option { i : Nat // i < tokens.size }
  extra : List { i : Nat // i < tokens.size }

/-- The special tokens that some wishes come to. -/
def resolveAll (tokens : Numbering String) (wishes : Wishes) (extra : List Slot.Wish) :
    Except Error (Resolved tokens) := do
  match unknownSlots wishes with
  | [] =>
    -- An id out of range in any slot is reported before a missing unknown token.
    let unk ← resolve tokens Slot.unk.name (wishFor wishes .unk)
    let pad ← resolve tokens Slot.pad.name (wishFor wishes .pad)
    let bos ← resolve tokens Slot.bos.name (wishFor wishes .bos)
    let eos ← resolve tokens Slot.eos.name (wishFor wishes .eos)
    let mask ← resolve tokens Slot.mask.name (wishFor wishes .mask)
    match unk with
    | none =>
      .error (.load (.missingUnknown ((wishFor wishes .unk).map Slot.Wish.show)) none)
    | some unk =>
      let extra ← resolveExtra tokens extra
      return ⟨unk, pad, bos, eos, mask, extra⟩
  | names => .error (.load (.unknownSlots names) none)

/-- The ids of resolved special tokens. -/
def Resolved.toSpecial {tokens : Numbering String} (r : Resolved tokens) : SpecialTokens where
  unk := r.unk.val
  pad := r.pad.map Subtype.val
  bos := r.bos.map Subtype.val
  eos := r.eos.map Subtype.val
  mask := r.mask.map Subtype.val
  extra := sortedIds (r.extra.map Subtype.val)

theorem mem_sortedIds {ids : List Nat} {i : Nat} : i ∈ sortedIds ids ↔ i ∈ ids := by
  simp only [sortedIds]
  rw [List.mem_eraseDups, List.mem_mergeSort]

theorem Resolved.toSpecial_lt {tokens : Numbering String} (r : Resolved tokens) :
    ∀ i ∈ r.toSpecial.ids, i < tokens.size := by
  intro i hi
  simp only [SpecialTokens.ids, mem_sortedIds, toSpecial, List.cons_append, List.mem_cons,
    List.mem_append, Option.mem_toList, Option.map_eq_some_iff, List.mem_map] at hi
  rcases hi with rfl | ((((⟨x, _, rfl⟩ | ⟨x, _, rfl⟩) | ⟨x, _, rfl⟩) | ⟨x, _, rfl⟩) | ⟨x, _, rfl⟩)
  · exact r.unk.property
  all_goals exact x.property

/-- The vocabulary of some tokens, whose ids are their positions. -/
def ofTokens (tokens : List String) (wishes : Wishes) (extra : List Slot.Wish) :
    Except Error Vocabulary :=
  match Numbering.ofList tokens with
  | .error r => .error (.load (.duplicateToken r.key r.first r.second) none)
  | .ok numbering => do
    let resolved ← resolveAll numbering wishes extra
    return ⟨numbering, resolved.toSpecial, resolved.toSpecial.ids, rfl, resolved.toSpecial_lt⟩

/-- The vocabulary of some lines, one token each. -/
def ofLines (lines : List String) (wishes : Wishes) (extra : List Slot.Wish) :
    Except Error Vocabulary :=
  ofTokens (lines.map fun line => String.ofList (Text.trimLineEnds line.toList)) wishes extra

/-- Sorts the entries of a mapping by id. -/
def placeEntries : List (String × Json) → Std.HashMap Nat String →
    Except LoadFault (Std.HashMap Nat String)
  | [], placed => .ok placed
  | (token, value) :: rest, placed =>
    match value.int? with
    | none => .error (.nonIntegerId token value)
    | some id =>
      if id < 0 then .error (.negativeId token id)
      else if placed.contains id.toNat then .error (.sharedId token id)
      else placeEntries rest (placed.insert id.toNat token)

/-- The tokens with the ids from a given one on. -/
def collect (placed : Std.HashMap Nat String) : Nat → Nat → Except LoadFault (List String)
  | 0, _ => .ok []
  | count + 1, id =>
    match placed[id]? with
    | none => .error (.missingId id)
    | some token => (collect placed count (id + 1)).map (token :: ·)

/-- The tokens of a mapping in the order of their ids. -/
def arrange (entries : List (String × Json)) : Except LoadFault (List String) := do
  let placed ← placeEntries entries ∅
  collect placed placed.size 0

/-- The vocabulary of a mapping of tokens to ids. -/
def ofMapping (entries : List (String × Json)) (wishes : Wishes) (extra : List Slot.Wish) :
    Except Error Vocabulary :=
  match arrange entries with
  | .error fault => .error (.load fault none)
  | .ok tokens => ofTokens tokens wishes extra

end Vocabulary

end Subword
