import Subword.Vocabulary

/-!
# Tokens and ids

The two directions of a vocabulary are inverse to each other, so a token that
is looked up comes back from its id, and a special token by name is the one
that its id stands for.

## Main definitions

* `Vocabulary.idWishes`: Wishes for slots that are given by id.

## Theorems

* `Vocabulary.get?_eq_some_iff`: A token has an id when the id has that token.
* `Vocabulary.contains_iff`: What the tokens are.
* `Vocabulary.lookup_eq`: The id of a token is found.
* `Vocabulary.reverse_eq`: The token of an id is found.
* `Vocabulary.reverse_eq_ok_iff`: Which ids have a token.
* `Vocabulary.exists_id_of_lookup`: A token whose id is not special is in the vocabulary.
* `Vocabulary.mem_literals`: What the special tokens by name are.
* `mem_of_lookup`: What is found in a list stands in it.
* `Vocabulary.lookup_literals_iff`: Special tokens are found by name.
* `Numbering.nodup`: No key of a numbering comes twice.
* `Numbering.exists_ofList`: Distinct keys can be numbered.
* `Vocabulary.exists_ofTokens`: Distinct tokens with ids for the slots make a vocabulary.
-/

namespace Subword

/-- An entry that is found by its key stands in the list. -/
theorem mem_of_lookup {β : Type} {entries : List (String × β)} {key : String} {value : β}
    (h : entries.lookup key = some value) : (key, value) ∈ entries := by
  rcases List.lookup_eq_some_iff.1 h with ⟨before, after, heq, _⟩
  rw [heq]
  exact List.mem_append_right before List.mem_cons_self

namespace Numbering

variable {α : Type} [BEq α] [Hashable α]

theorem key?_eq_getElem? (n : Numbering α) (i : Nat) : n.key? i = n.toList[i]? := by
  rw [key?, toList, Array.getElem?_toList]

/-- A key that is not among those of a numbering has no number. -/
theorem index_eq_none {n : Numbering α} {a : α} (h : a ∉ n.toList) : n.index[a]? = none := by
  cases hi : n.index[a]? with
  | none => rfl
  | some i =>
    have hkey : n.toList[i]? = some a := by
      rw [← key?_eq_getElem?]
      exact (n.index_iff a i).1 hi
    exact absurd (List.mem_of_getElem? hkey) h

/-- No key of a numbering comes twice. -/
theorem nodup (n : Numbering α) : n.toList.Nodup := by
  rw [List.Nodup, List.pairwise_iff_getElem]
  intro i j hi hj hij heq
  have hkey : ∀ k (hk : k < n.toList.length), n.index[n.toList[k]]? = some k := by
    intro k hk
    rw [n.index_iff, ← key?, key?_eq_getElem?, List.getElem?_eq_getElem hk]
  have hsame := hkey i hi
  rw [heq, hkey j hj, Option.some.injEq] at hsame
  omega

variable [LawfulBEq α] [LawfulHashable α]

/-- Further keys that differ from all others can be numbered. -/
theorem exists_extend (keys : List α) : ∀ n : Numbering α, (n.toList ++ keys).Nodup →
    ∃ m, n.extend keys = .ok m := by
  induction keys with
  | nil =>
    intro n _
    exact ⟨n, rfl⟩
  | cons a rest ih =>
    intro n h
    have hfresh : n.index[a]? = none := by
      apply index_eq_none
      intro hmem
      exact (List.nodup_append.1 h).2.2 a hmem a List.mem_cons_self rfl
    have hnodup : ((n.push a hfresh).toList ++ rest).Nodup := by
      rw [toList_push, List.append_assoc, List.singleton_append]
      exact h
    rcases ih (n.push a hfresh) hnodup with ⟨m, hm⟩
    refine ⟨m, ?_⟩
    unfold extend
    split
    · next first hfirst =>
      rw [hfresh] at hfirst
      exact absurd hfirst (Option.some_ne_none first).symm
    · exact hm

/-- Distinct keys can be numbered. -/
theorem exists_ofList {keys : List α} (h : keys.Nodup) :
    ∃ m : Numbering α, ofList keys = .ok m ∧ m.toList = keys := by
  have hempty : (empty : Numbering α).toList = [] := rfl
  rcases exists_extend keys (empty : Numbering α) (by rwa [hempty, List.nil_append]) with ⟨m, hm⟩
  exact ⟨m, hm, toList_of_ofList hm⟩

end Numbering

namespace Vocabulary

variable {v : Vocabulary}

/-- A token has an id when the id has that token. -/
theorem get?_eq_some_iff {token : String} {id : Nat} :
    v.get? token = some id ↔ v.token? id = some token :=
  v.tokens.get?_eq_some_iff token id

/-- The tokens of a vocabulary are those that are numbered. -/
theorem contains_iff {token : String} : v.contains token = true ↔ token ∈ v.tokens.toList := by
  have hget : v.contains token = (v.get? token).isSome := Std.HashMap.contains_eq_isSome_getElem?
  rw [hget, Option.isSome_iff_exists, List.mem_iff_getElem?]
  refine exists_congr fun id => ?_
  rw [get?_eq_some_iff, token?, v.tokens.key?_eq_getElem?]

theorem size_eq_length (v : Vocabulary) : v.size = v.tokens.toList.length :=
  (Array.length_toList).symm

theorem token?_eq_getElem? (id : Nat) : v.token? id = v.tokens.toList[id]? :=
  v.tokens.key?_eq_getElem? id

/-- The id of a token is found. -/
theorem lookup_eq {token : String} {id : Nat} (h : v.token? id = some token) :
    v.lookup token = id := by
  rw [lookup, get?_eq_some_iff.2 h, Option.getD_some]

/-- The token of an id is found. -/
theorem reverse_eq {token : String} {id : Nat} (h : v.token? id = some token) :
    v.reverse (id : Int) = .ok token := by
  simp only [reverse, h]

/-- The ids that have a token are those of the numbering. -/
theorem reverse_eq_ok_iff {id : Int} {token : String} :
    v.reverse id = .ok token ↔ ∃ n : Nat, id = n ∧ v.token? n = some token := by
  constructor
  · intro h
    cases id with
    | ofNat n =>
      rw [reverse] at h
      split at h
      · next found hfound =>
        rw [Except.ok.injEq] at h
        exact ⟨n, rfl, h ▸ hfound⟩
      · cases h
    | negSucc n => cases h
  · rintro ⟨n, rfl, h⟩
    exact reverse_eq h

theorem token?_unk (v : Vocabulary) : v.token? v.special.unk = some v.unkToken :=
  Array.getElem?_eq_getElem (v.special_lt _ v.unk_mem)

theorem isSpecial_iff {id : Nat} : v.isSpecial id = true ↔ id ∈ v.specialIds := by
  rw [isSpecial, List.contains_iff_mem]

theorem isSpecial_unk (v : Vocabulary) : v.isSpecial v.special.unk = true :=
  isSpecial_iff.2 v.unk_mem

/-- A token whose id is not special is in the vocabulary, since the unknown token is special. -/
theorem exists_id_of_lookup {token : String} (h : v.isSpecial (v.lookup token) = false) :
    ∃ id, v.token? id = some token ∧ v.isSpecial id = false := by
  cases hget : v.get? token with
  | none =>
    rw [lookup, hget, Option.getD_none, v.isSpecial_unk] at h
    cases h
  | some id =>
    rw [lookup, hget, Option.getD_some] at h
    exact ⟨id, get?_eq_some_iff.1 hget, h⟩

/-- Nor is it the unknown token. -/
theorem ne_unkToken_of_lookup {token : String} (h : v.isSpecial (v.lookup token) = false) :
    token ≠ v.unkToken := by
  rintro rfl
  rw [lookup_eq v.token?_unk, v.isSpecial_unk] at h
  cases h

/-- What the special tokens by name are. -/
theorem mem_literals {token : String} {id : Nat} :
    (token, id) ∈ v.literals ↔ v.isSpecial id = true ∧ v.token? id = some token := by
  rw [literals, List.mem_filterMap, isSpecial_iff]
  constructor
  · rintro ⟨i, hi, h⟩
    rcases Option.map_eq_some_iff.1 h with ⟨s, hs, heq⟩
    rcases Prod.mk.injEq .. ▸ heq with ⟨rfl, rfl⟩
    exact ⟨hi, hs⟩
  · rintro ⟨hi, hs⟩
    exact ⟨id, hi, by rw [hs, Option.map_some]⟩

/-- Special tokens are found by name. -/
theorem lookup_literals_iff {token : String} {id : Nat} :
    v.literals.lookup token = some id ↔ (token, id) ∈ v.literals := by
  constructor
  · exact mem_of_lookup
  · intro h
    cases hfound : v.literals.lookup token with
    | none =>
      have hne := List.lookup_eq_none_iff.1 hfound _ h
      simp at hne
    | some n =>
      have hid := get?_eq_some_iff.2 (mem_literals.1 h).2
      have hn := get?_eq_some_iff.2 (mem_literals.1 (mem_of_lookup hfound)).2
      exact hn.symm.trans hid

/-- A document value that is an integer is special when it is a special id. -/
theorem isSpecialValue_int {id : Int} :
    v.isSpecialValue (.int id) = true ↔ ∃ n : Nat, id = n ∧ v.isSpecial n = true := by
  rw [isSpecialValue, List.any_eq_true]
  refine exists_congr fun n => ?_
  rw [isSpecial_iff, Json.equalsInt, Json.numeric?, decide_eq_true_eq, Option.some.injEq, and_comm]

theorem sortedIds_of_pairwise {ids : List Nat} (h : ids.Pairwise (· < ·)) :
    sortedIds ids = ids := by
  have hsort : ids.mergeSort (· ≤ ·) = ids :=
    List.mergeSort_of_pairwise (h.imp fun hlt => decide_eq_true (Nat.le_of_lt hlt))
  rw [sortedIds, hsort]
  clear hsort
  induction h with
  | nil => rfl
  | cons hall _ ih =>
    rw [List.eraseDups_cons, List.filter_eq_self.2 ?_, ih]
    intro b hb
    have hlt := hall b hb
    simp only [Bool.not_eq_true', beq_eq_false_iff_ne]
    omega

/-! ## Making a vocabulary -/

/-- The wish for the token with an id. -/
def idWish (id : Nat) : Slot.Wish := .id id

/-- Wishes for slots that are given by id. -/
def idWishes (ids : Slot → Option Nat) : Wishes :=
  Slot.all.map fun slot => (slot.name, (ids slot).map idWish)

theorem wishFor_idWishes (ids : Slot → Option Nat) (slot : Slot) :
    wishFor (idWishes ids) slot = (ids slot).map idWish := by
  unfold wishFor idWishes
  cases slot <;> simp [Slot.all, Slot.name, List.lookup_cons]

theorem unknownSlots_idWishes (ids : Slot → Option Nat) : unknownSlots (idWishes ids) = [] := by
  have hnames : (idWishes ids).map Prod.fst = Slot.all.map Slot.name := by
    rw [idWishes, List.map_map]
    rfl
  have hnone : (Slot.all.map Slot.name).filter
      (fun name => !(Slot.all.map Slot.name).contains name) = [] := by
    decide
  unfold unknownSlots
  rw [hnames]
  simp only [hnone, List.mergeSort_nil]

/-- An id in range is granted. -/
theorem exists_resolve_id {tokens : Numbering String} (slot : String) {id : Option Nat}
    (h : ∀ i, id = some i → i < tokens.size) :
    ∃ found, resolve tokens slot (id.map idWish) = .ok found ∧
      found.map Subtype.val = id := by
  cases id with
  | none => exact ⟨none, rfl, rfl⟩
  | some i =>
    have hlt := h i rfl
    refine ⟨some ⟨i, hlt⟩, ?_, rfl⟩
    rw [Option.map_some, idWish, resolve, dif_pos ⟨hlt, Int.natCast_nonneg i⟩]
    rfl

/-- Distinct tokens with ids for the slots make a vocabulary, if there is an unknown token. -/
theorem exists_ofTokens {tokens : List String} (h : tokens.Nodup) (ids : Slot → Option Nat)
    {unk : Nat} (hunk : ids .unk = some unk)
    (hlt : ∀ slot i, ids slot = some i → i < tokens.length) :
    ∃ v, ofTokens tokens (idWishes ids) [] = .ok v ∧ v.tokens.toList = tokens ∧
      v.special = ⟨unk, ids .pad, ids .bos, ids .eos, ids .mask, []⟩ := by
  rcases Numbering.exists_ofList h with ⟨m, hm, hlist⟩
  have hsize : tokens.length = m.size := by
    rw [← hlist, Numbering.toList, Array.length_toList, Numbering.size]
  rw [hsize] at hlt
  have hfound := fun slot : Slot => exists_resolve_id slot.name (hlt slot)
  rcases hfound .unk with ⟨u, hu, huv⟩
  rcases hfound .pad with ⟨pad, hpad, hpadv⟩
  rcases hfound .bos with ⟨bos, hbos, hbosv⟩
  rcases hfound .eos with ⟨eos, heos, heosv⟩
  rcases hfound .mask with ⟨mask, hmask, hmaskv⟩
  cases u with
  | none =>
    rw [hunk] at huv
    exact absurd huv (Option.some_ne_none unk).symm
  | some u =>
    rw [hunk, Option.map_some, Option.some.injEq] at huv
    have hall : resolveAll m (idWishes ids) [] = .ok ⟨u, pad, bos, eos, mask, []⟩ := by
      unfold resolveAll
      rw [unknownSlots_idWishes]
      simp only [wishFor_idWishes, hu, hpad, hbos, heos, hmask]
      rfl
    unfold ofTokens
    rw [hm]
    simp only [hall]
    refine ⟨_, rfl, hlist, ?_⟩
    simp only [Resolved.toSpecial, huv, hpadv, hbosv, heosv, hmaskv, List.map_nil, sortedIds,
      List.mergeSort_nil, List.eraseDups_nil]

/-- Distinct tokens make a vocabulary with any of them as the unknown token. -/
theorem exists_ofUnknown {tokens : List String} (h : tokens.Nodup) (unk : Nat)
    (hlt : unk < tokens.length) : ∃ v, ofTokens tokens
        (idWishes fun slot => if slot = .unk then some unk else none) [] = .ok v ∧
      v.tokens.toList = tokens ∧ v.special = ⟨unk, none, none, none, none, []⟩ := by
  refine exists_ofTokens h (fun slot => if slot = .unk then some unk else none) rfl ?_
  intro slot i hi
  split at hi
  · rw [Option.some.injEq] at hi
    rwa [← hi]
  · cases hi

/-- The special tokens where the unknown token is the only one. -/
theorem specialIds_of_unknown {v : Vocabulary} {unk : Nat}
    (h : v.special = ⟨unk, none, none, none, none, []⟩) : v.specialIds = [unk] := by
  rw [v.specialIds_eq, h]
  exact sortedIds_of_pairwise (List.pairwise_singleton _ _)

/-- The ids for the slots when the first tokens are the unknown token and those for the start
    and the end. -/
def boundIds : Slot → Option Nat
  | .unk => some 0
  | .bos => some 1
  | .eos => some 2
  | _ => none

/-- Distinct tokens make a vocabulary in which the first three have slots. -/
theorem exists_ofBounds {tokens : List String} (h : tokens.Nodup) (hlt : 2 < tokens.length) :
    ∃ v : Vocabulary, v.tokens.toList = tokens ∧
      v.special = ⟨0, none, some 1, some 2, none, []⟩ ∧ v.specialIds = [0, 1, 2] := by
  have hslots : ∀ slot i, boundIds slot = some i → i < tokens.length := by
    intro slot i hi
    cases slot <;> cases hi <;> omega
  rcases exists_ofTokens h boundIds rfl hslots with ⟨v, _, hv, hspecial⟩
  refine ⟨v, hv, hspecial, ?_⟩
  rw [v.specialIds_eq, hspecial]
  exact sortedIds_of_pairwise (by decide)

/-- The special tokens by name when the first three tokens are special. -/
theorem literals_of_bounds (hids : v.specialIds = [0, 1, 2]) {a b c : String}
    {rest : List String} (hv : v.tokens.toList = a :: b :: c :: rest) :
    v.literals = [(a, 0), (b, 1), (c, 2)] := by
  rw [literals, hids]
  simp only [v.token?_eq_getElem?, hv]
  rfl

end Vocabulary

end Subword
