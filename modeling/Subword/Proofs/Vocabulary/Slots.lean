import Subword.Proofs.Outcome
import Subword.Proofs.Vocabulary

/-!
# What goes into the slots

A wish for a slot is an id or a list of candidates. `Granted` says what a wish
comes to, case by case and without a search: an id is taken as it is, and must
be that of a token; of the candidates it is the one before which no other is a
token; and a wish for candidates none of which is a token comes to nothing,
which is no error. So an id out of range is all that a wish can fail for.

The slots of a vocabulary and the special tokens without one are then described
by their wishes alone. That a vocabulary has an unknown token is the one demand
that goes beyond them.

## Main definitions

* `SpecialTokens.inSlot`: The id in a slot.
* `Slot.Wish.InRange`: A wish that does not ask for an id out of range.
* `Slot.Wish.FoundIn`: A wish that some tokens have something for.
* `Vocabulary.Granted`: What a wish comes to.
* `Vocabulary.Fulfils`: Special tokens as wishes ask for them.
* `Vocabulary.Fulfillable`: Wishes that can be fulfilled.

## Theorems

* `SpecialTokens.mem_ids`: The special ids are those in slots and those without one.
* `Vocabulary.map_resolve_iff`: Resolving a wish grants it.
* `Vocabulary.exists_granted_iff`: A wish in range is granted.
* `Vocabulary.exists_granted_some_iff`: When a wish comes to an id.
* `Vocabulary.unknownSlots_eq_nil_iff`: When no name is that of no slot.
* `Vocabulary.ofTokens_fulfils`: A vocabulary of tokens fulfils the wishes.
* `Vocabulary.exists_ofTokens_of_fulfillable`: When there is one.
-/

namespace Subword

namespace SpecialTokens

/-- The id in a slot. -/
def inSlot (s : SpecialTokens) : Slot → Option Nat
  | .unk => some s.unk
  | .pad => s.pad
  | .bos => s.bos
  | .eos => s.eos
  | .mask => s.mask

/-- The special ids are those in slots and those without one. -/
theorem mem_ids {s : SpecialTokens} {id : Nat} :
    id ∈ s.ids ↔ (∃ slot, s.inSlot slot = some id) ∨ id ∈ s.extra := by
  simp only [ids, Vocabulary.mem_sortedIds, List.cons_append, List.mem_cons, List.mem_append,
    Option.mem_toList]
  constructor
  · rintro (rfl | ((((h | h) | h) | h) | h))
    · exact Or.inl ⟨.unk, rfl⟩
    · exact Or.inl ⟨.pad, h⟩
    · exact Or.inl ⟨.bos, h⟩
    · exact Or.inl ⟨.eos, h⟩
    · exact Or.inl ⟨.mask, h⟩
    · exact Or.inr h
  · rintro (⟨slot, h⟩ | h)
    · cases slot with
      | unk => exact Or.inl (Option.some.inj h).symm
      | pad => exact Or.inr (Or.inl (Or.inl (Or.inl (Or.inl h))))
      | bos => exact Or.inr (Or.inl (Or.inl (Or.inl (Or.inr h))))
      | eos => exact Or.inr (Or.inl (Or.inl (Or.inr h)))
      | mask => exact Or.inr (Or.inl (Or.inr h))
    · exact Or.inr (Or.inr h)

end SpecialTokens

/-- A wish that does not ask for an id out of range. -/
def Slot.Wish.InRange (count : Nat) : Slot.Wish → Prop
  | id n => 0 ≤ n ∧ n < count
  | oneOf _ => True

/-- A wish that some tokens have something for, if it is in range. -/
def Slot.Wish.FoundIn (tokens : List String) : Slot.Wish → Prop
  | id _ => True
  | oneOf candidates => ∃ candidate ∈ candidates, candidate ∈ tokens

/-- In which order the tokens stand has no say in what they have. -/
theorem Slot.Wish.FoundIn.perm {tokens others : List String} {wish : Slot.Wish}
    (h : wish.FoundIn tokens) (hperm : tokens.Perm others) : wish.FoundIn others := by
  cases wish with
  | id _ => exact trivial
  | oneOf candidates =>
    rcases h with ⟨candidate, hmem, htoken⟩
    exact ⟨candidate, hmem, hperm.mem_iff.1 htoken⟩

namespace Vocabulary

/-- What a wish comes to among some tokens. An id of a token is granted, and of candidates the
    first that is a token. -/
inductive Granted (tokens : Numbering String) : Option Slot.Wish → Option Nat → Prop
  | unasked : Granted tokens none none
  | id {n : Nat} (lt : n < tokens.size) : Granted tokens (some (.id n)) (some n)
  | first {before : List String} {candidate : String} {after : List String} {n : Nat}
      (absent : ∀ other ∈ before, tokens.get? other = none)
      (present : tokens.get? candidate = some n) :
      Granted tokens (some (.oneOf (before ++ candidate :: after))) (some n)
  | absent {candidates : List String} (absent : ∀ other ∈ candidates, tokens.get? other = none) :
      Granted tokens (some (.oneOf candidates)) none

variable {tokens : Numbering String} {wishes : Wishes} {extra : List Slot.Wish}

/-! ## One wish -/

/-- Of candidates, the first that is a token is found. -/
theorem granted_oneOf_iff {candidates : List String} {found : Option Nat} :
    candidates.findSome? tokens.get? = found ↔
      Granted tokens (some (.oneOf candidates)) found := by
  cases found with
  | none =>
    rw [List.findSome?_eq_none_iff]
    constructor
    · exact .absent
    · rintro (_ | _ | _ | h)
      exact h
  | some n =>
    rw [List.findSome?_eq_some_iff]
    constructor
    · rintro ⟨before, candidate, after, rfl, hpresent, habsent⟩
      exact .first habsent hpresent
    · rintro (_ | _ | ⟨habsent, hpresent⟩)
      exact ⟨_, _, _, rfl, hpresent, habsent⟩

/-- When the first candidate is a token, no other one is tried. -/
theorem granted_cons {candidate : String} {n : Nat} (h : tokens.get? candidate = some n)
    (others : List String) : Granted tokens (some (.oneOf (candidate :: others))) (some n) := by
  rw [← granted_oneOf_iff, List.findSome?_cons, h]

/-- Of candidates, the first that is a token is taken. -/
theorem map_resolve_oneOf (slot : String) (candidates : List String) :
    (resolve tokens slot (some (.oneOf candidates))).map (Option.map Subtype.val)
      = .ok (candidates.findSome? tokens.get?) := by
  show Except.ok (Option.map Subtype.val (candidates.findSome? _)) = _
  rw [List.map_findSome?]
  congr 2
  funext candidate
  -- An id comes with a proof that it is in range, which is dropped again.
  dsimp only [Function.comp]
  split
  · next h => exact h.symm
  · next h => exact h.symm

/-- Resolving a wish grants it. -/
theorem map_resolve_iff (slot : String) {wish : Option Slot.Wish} {found : Option Nat} :
    (resolve tokens slot wish).map (Option.map Subtype.val) = .ok found ↔
      Granted tokens wish found := by
  cases wish with
  | none =>
    constructor
    · intro h
      rw [← Except.ok.inj h]
      exact .unasked
    · rintro ⟨⟩
      rfl
  | some wish =>
    cases wish with
    | id n =>
      rw [resolve]
      by_cases hrange : n.toNat < tokens.size ∧ 0 ≤ n
      · rw [dif_pos hrange]
        constructor
        · intro h
          rcases Int.eq_ofNat_of_zero_le hrange.2 with ⟨m, rfl⟩
          rw [← Except.ok.inj h]
          exact .id hrange.1
        · rintro (_ | hlt)
          rfl
      · rw [dif_neg hrange]
        constructor
        · intro h
          cases h
        · rintro (_ | hlt)
          exact absurd ⟨hlt, Int.natCast_nonneg _⟩ hrange
    | oneOf candidates =>
      rw [map_resolve_oneOf, Except.ok.injEq]
      exact granted_oneOf_iff

/-- A wish in range is granted, and only such a wish. -/
theorem exists_granted_iff {wish : Option Slot.Wish} :
    (∃ found, Granted tokens wish found) ↔
      ∀ asked, wish = some asked → asked.InRange tokens.size := by
  constructor
  · rintro ⟨found, h⟩ asked rfl
    cases h with
    | id hlt => exact ⟨Int.natCast_nonneg _, Int.ofNat_lt.2 hlt⟩
    | first _ _ => exact trivial
    | absent _ => exact trivial
  · intro h
    cases wish with
    | none => exact ⟨none, .unasked⟩
    | some asked =>
      cases asked with
      | id n =>
        rcases h _ rfl with ⟨hnonneg, hlt⟩
        rcases Int.eq_ofNat_of_zero_le hnonneg with ⟨m, rfl⟩
        exact ⟨some m, .id (Int.ofNat_lt.1 hlt)⟩
      | oneOf candidates => exact ⟨_, granted_oneOf_iff.1 rfl⟩

/-- A text has an id when it is a token. -/
theorem get?_ne_none_iff {token : String} :
    tokens.get? token ≠ none ↔ token ∈ tokens.toList := by
  rw [Option.ne_none_iff_exists', List.mem_iff_getElem?]
  refine exists_congr fun id => ?_
  rw [tokens.get?_eq_some_iff, tokens.key?_eq_getElem?]

/-- A wish comes to an id when it is one for something that is there. -/
theorem exists_granted_some_iff {wish : Option Slot.Wish} :
    (∃ id, Granted tokens wish (some id)) ↔ ∃ asked, wish = some asked ∧
      asked.InRange tokens.size ∧ asked.FoundIn tokens.toList := by
  constructor
  · rintro ⟨id, h⟩
    cases h with
    | id hlt => exact ⟨_, rfl, ⟨Int.natCast_nonneg _, Int.ofNat_lt.2 hlt⟩, trivial⟩
    | first _ hpresent =>
      refine ⟨_, rfl, trivial, _, List.mem_append_right _ List.mem_cons_self, ?_⟩
      rw [← get?_ne_none_iff, hpresent]
      exact Option.some_ne_none _
  · rintro ⟨asked, rfl, hrange, hfound⟩
    have hinRange : ∀ other, some asked = some other → other.InRange tokens.size := by
      rintro other ⟨⟩
      exact hrange
    rcases exists_granted_iff.2 hinRange with ⟨found, hgranted⟩
    cases found with
    | some id => exact ⟨id, hgranted⟩
    | none =>
      cases hgranted with
      | absent habsent =>
        rcases hfound with ⟨candidate, hmem, htoken⟩
        exact absurd (habsent candidate hmem) (get?_ne_none_iff.2 htoken)

/-- A wish comes to one thing only. -/
theorem Granted.unique {wish : Option Slot.Wish} {a b : Option Nat} (ha : Granted tokens wish a)
    (hb : Granted tokens wish b) : a = b := by
  have hsame := (map_resolve_iff "").2 ha
  rw [(map_resolve_iff "").2 hb] at hsame
  exact (Except.ok.inj hsame).symm

/-! ## All wishes -/

/-- Special tokens as they are asked for. -/
structure Fulfils (tokens : Numbering String) (wishes : Wishes) (extra : List Slot.Wish)
    (special : SpecialTokens) : Prop where
  slots : ∀ slot, Granted tokens (wishFor wishes slot) (special.inSlot slot)
  mem_extra_iff : ∀ id, id ∈ special.extra ↔ ∃ wish ∈ extra, Granted tokens (some wish) (some id)

/-- Wishes that can be fulfilled: all names are those of slots, no id is out of range, and there
    is something for the unknown token. -/
structure Fulfillable (tokens : Numbering String) (wishes : Wishes) (extra : List Slot.Wish) :
    Prop where
  known : ∀ wish ∈ wishes, ∃ slot : Slot, slot.name = wish.1
  slots_inRange : ∀ slot asked, wishFor wishes slot = some asked → asked.InRange tokens.size
  extra_inRange : ∀ asked ∈ extra, asked.InRange tokens.size
  unknown : ∃ id, Granted tokens (wishFor wishes .unk) (some id)

theorem mem_all (slot : Slot) : slot ∈ Slot.all := by
  cases slot <;> decide

/-- No name is out of place when each is that of a slot. -/
theorem unknownSlots_eq_nil_iff :
    unknownSlots wishes = [] ↔ ∀ wish ∈ wishes, ∃ slot : Slot, slot.name = wish.1 := by
  have hsorted : ∀ names : List String, names.mergeSort (· ≤ ·) = [] ↔ names = [] := by
    intro names
    rw [← List.length_eq_zero_iff, List.length_mergeSort, List.length_eq_zero_iff]
  unfold unknownSlots
  rw [hsorted, List.filter_eq_nil_iff, List.forall_mem_map]
  refine forall₂_congr fun wish _ => ?_
  rw [Bool.not_eq_true', Bool.not_eq_false, List.contains_iff_mem, List.mem_map]
  constructor
  · rintro ⟨slot, _, h⟩
    exact ⟨slot, h⟩
  · rintro ⟨slot, h⟩
    exact ⟨slot, mem_all slot, h⟩

/-- A wish that is resolved is granted. -/
theorem granted_of_resolve {slot : String} {wish : Option Slot.Wish}
    {found : Option { i : Nat // i < tokens.size }} (h : resolve tokens slot wish = .ok found) :
    Granted tokens wish (found.map Subtype.val) := by
  rw [← map_resolve_iff slot, h]
  rfl

/-- A wish that is granted is resolved. -/
theorem exists_resolve {wish : Option Slot.Wish} {id : Option Nat} (slot : String)
    (h : Granted tokens wish id) :
    ∃ found, resolve tokens slot wish = .ok found ∧ found.map Subtype.val = id := by
  have hmap := (map_resolve_iff slot).2 h
  cases hresolve : resolve tokens slot wish with
  | error e =>
    rw [hresolve] at hmap
    cases hmap
  | ok found =>
    rw [hresolve] at hmap
    exact ⟨found, rfl, Except.ok.inj hmap⟩

/-- The ids of wishes without a slot are those that the wishes come to. -/
theorem resolveExtra_eq_ok {found : List { i : Nat // i < tokens.size }}
    (h : resolveExtra tokens extra = .ok found) :
    (∀ asked ∈ extra, asked.InRange tokens.size) ∧
      ∀ id, id ∈ found.map Subtype.val ↔
        ∃ asked ∈ extra, Granted tokens (some asked) (some id) := by
  rcases bind_eq_ok_iff.1 h with ⟨results, hresults, hfound⟩
  rw [← Except.ok.inj hfound]
  clear h hfound
  rw [mapM_eq_ok_iff] at hresults
  induction hresults with
  | nil => simp
  | @cons asked result extra results hfirst _ ih =>
    have hgranted := granted_of_resolve hfirst
    refine ⟨List.forall_mem_cons.2 ⟨?_, ih.1⟩, ?_⟩
    · exact exists_granted_iff.1 ⟨_, hgranted⟩ asked rfl
    · intro n
      rw [List.exists_mem_cons_iff, ← ih.2 n]
      cases result with
      | none =>
        -- A wish that comes to nothing adds no id.
        have hnone : ¬ Granted tokens (some asked) (some n) :=
          fun h => Option.some_ne_none n (h.unique hgranted)
        rw [List.filterMap_cons_none rfl]
        exact (or_iff_right hnone).symm
      | some first =>
        have hsome : Granted tokens (some asked) (some n) ↔ n = first.val := by
          constructor
          · exact fun h => Option.some.inj (h.unique hgranted)
          · rintro rfl
            exact hgranted
        have hcons : (some first :: results).filterMap id = first :: results.filterMap id := rfl
        rw [hcons, List.map_cons, List.mem_cons, hsome]

/-- Wishes without a slot that are in range come to some ids. -/
theorem exists_resolveExtra (h : ∀ asked ∈ extra, asked.InRange tokens.size) :
    ∃ found, resolveExtra tokens extra = .ok found := by
  have hresults : ∃ results, List.Forall₂ (fun asked found =>
      resolve tokens "extra" (some asked) = .ok found) extra results := by
    induction extra with
    | nil => exact ⟨[], .nil⟩
    | cons asked rest ih =>
      rcases ih fun other hother => h other (List.mem_cons_of_mem asked hother) with
        ⟨results, hresults⟩
      rcases exists_granted_iff.2 fun other hother => by
        rw [← Option.some.inj hother]
        exact h asked List.mem_cons_self with ⟨id, hid⟩
      rcases exists_resolve "extra" hid with ⟨found, hfound, _⟩
      exact ⟨found :: results, .cons hfound hresults⟩
  rcases hresults with ⟨results, hresults⟩
  refine ⟨results.filterMap id, bind_eq_ok_iff.2 ⟨results, ?_, rfl⟩⟩
  exact mapM_eq_ok_iff.2 hresults

/-- Special tokens that are found are as they are asked for. -/
theorem resolveAll_fulfils {found : Resolved tokens}
    (h : resolveAll tokens wishes extra = .ok found) :
    Fulfils tokens wishes extra found.toSpecial ∧ Fulfillable tokens wishes extra := by
  unfold resolveAll at h
  split at h
  · next hknown =>
    rcases bind_eq_ok_iff.1 h with ⟨unk, hunk, h⟩
    rcases bind_eq_ok_iff.1 h with ⟨pad, hpad, h⟩
    rcases bind_eq_ok_iff.1 h with ⟨bos, hbos, h⟩
    rcases bind_eq_ok_iff.1 h with ⟨eos, heos, h⟩
    rcases bind_eq_ok_iff.1 h with ⟨mask, hmask, h⟩
    cases unk with
    | none => cases h
    | some unk =>
      rcases bind_eq_ok_iff.1 h with ⟨others, hothers, h⟩
      rcases resolveExtra_eq_ok hothers with ⟨hrange, hmem⟩
      have hslots : ∀ slot, Granted tokens (wishFor wishes slot)
          (found.toSpecial.inSlot slot) := by
        rw [← Except.ok.inj h]
        intro slot
        cases slot with
        | unk => exact granted_of_resolve hunk
        | pad => exact granted_of_resolve hpad
        | bos => exact granted_of_resolve hbos
        | eos => exact granted_of_resolve heos
        | mask => exact granted_of_resolve hmask
      refine ⟨⟨hslots, ?_⟩, unknownSlots_eq_nil_iff.1 hknown, ?_, hrange, _, hslots .unk⟩
      · intro id
        rw [← Except.ok.inj h, ← hmem id]
        exact mem_sortedIds
      · intro slot
        exact exists_granted_iff.1 ⟨_, hslots slot⟩
  · cases h

/-- Special tokens are found when the wishes can be fulfilled. -/
theorem exists_resolveAll (h : Fulfillable tokens wishes extra) :
    ∃ found, resolveAll tokens wishes extra = .ok found := by
  have hslots : ∀ slot, ∃ found, resolve tokens slot.name (wishFor wishes slot) = .ok found := by
    intro slot
    rcases exists_granted_iff.2 (h.slots_inRange slot) with ⟨id, hid⟩
    rcases exists_resolve slot.name hid with ⟨found, hfound, _⟩
    exact ⟨found, hfound⟩
  rcases h.unknown with ⟨id, hid⟩
  rcases exists_resolve Slot.unk.name hid with ⟨unk, hunk, hval⟩
  rcases hslots .pad with ⟨pad, hpad⟩
  rcases hslots .bos with ⟨bos, hbos⟩
  rcases hslots .eos with ⟨eos, heos⟩
  rcases hslots .mask with ⟨mask, hmask⟩
  rcases exists_resolveExtra h.extra_inRange with ⟨others, hothers⟩
  cases unk with
  | none => cases hval
  | some unk =>
    unfold resolveAll
    rw [unknownSlots_eq_nil_iff.2 h.known]
    dsimp only
    rw [hunk, hpad, hbos, heos, hmask]
    refine ⟨⟨unk, pad, bos, eos, mask, others⟩, ?_⟩
    show (resolveExtra tokens extra >>= _) = _
    rw [hothers]
    rfl

/-! ## Vocabularies of tokens -/

/-- A vocabulary of tokens has these, in their order, and special tokens as asked for. -/
theorem ofTokens_fulfils {list : List String} {v : Vocabulary}
    (h : ofTokens list wishes extra = .ok v) : v.tokens.toList = list ∧
      Fulfils v.tokens wishes extra v.special ∧ Fulfillable v.tokens wishes extra := by
  unfold ofTokens at h
  split at h
  · cases h
  · next numbering hlist =>
    rcases bind_eq_ok_iff.1 h with ⟨found, hfound, hv⟩
    rw [← Except.ok.inj hv]
    exact ⟨Numbering.toList_of_ofList hlist, resolveAll_fulfils hfound⟩

/-- Tokens that can be numbered make a vocabulary when the wishes can be fulfilled. -/
theorem exists_ofTokens_of_fulfillable {list : List String} (h : Numbering.ofList list = .ok tokens)
    (hwishes : Fulfillable tokens wishes extra) : ∃ v, ofTokens list wishes extra = .ok v := by
  rcases exists_resolveAll hwishes with ⟨found, hfound⟩
  unfold ofTokens
  rw [h]
  dsimp only
  rw [hfound]
  exact ⟨_, rfl⟩

end Vocabulary

end Subword
