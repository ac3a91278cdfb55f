import Mathlib.Data.List.Nodup
import Mathlib.Data.List.Perm.Subperm
import Mathlib.Order.Bounds.Basic
import Subword.Proofs.Vocabulary.Slots

/-!
# Vocabularies of mappings

A mapping numbers its tokens when its values are the integers from zero on,
each once. The reader finds that out in two passes: it sorts the entries by
their ids, which fails for a value that is no such integer or comes twice, and
collects the tokens of as many ids as there are entries. Nothing compares the
ids with a range. That a sorted table in which every id of the range is found
has no other ids is a matter of counting: distinct entries, as many as there
are places, that fill all places.

Everything about the tokens follows from one statement, that the entries are
the tokens with their positions in some order (`arrange_eq_ok_iff`). It does
not mention the order of the entries, so nothing that is read off a vocabulary
depends on it.

## Main definitions

* `Vocabulary.numbered`: Tokens with their positions, as entries.
* `Vocabulary.Numbers`: A mapping to the integers from zero on, each once.
* `Vocabulary.DistinctIds`: A mapping to natural numbers that can leave some out.
* `Vocabulary.Acceptable`: Everything a mapping and its wishes have to meet.
* `Vocabulary.Represents`: A vocabulary that says what a mapping and its wishes say.

## Theorems

* `Vocabulary.placeEntries_eq_ok`: What the table of ids holds.
* `Vocabulary.collect_cases`: Collecting finds all ids, or the least one that is missing.
* `Vocabulary.arrange_eq_ok_iff`: The tokens of a mapping in the order of their ids.
* `Vocabulary.exists_arrange_iff`: When a mapping has such tokens.
* `Vocabulary.represents_of_ofMapping`: What the vocabulary of a mapping says.
* `Vocabulary.ofMapping_perm`: The order of the entries has no say in it.
* `Vocabulary.ofMapping_represents`: When a mapping is a vocabulary, which one, and what is
  missing otherwise.
-/

namespace Subword

namespace Vocabulary

/-- Tokens with their positions, as the entries of a mapping. -/
def numbered (tokens : List String) : List (String × Json) :=
  tokens.mapIdx fun id token => (token, .int id)

/-- The integers below a bound, as values. -/
def firstIds (count : Nat) : List Json := (List.range count).map fun (id : Nat) => Json.int id

/-- A mapping to the integers from zero on, each once. -/
def Numbers (entries : List (String × Json)) : Prop :=
  (entries.map Prod.snd).Perm (firstIds entries.length)

theorem length_numbered (tokens : List String) : (numbered tokens).length = tokens.length :=
  List.length_mapIdx

theorem mem_numbered {tokens : List String} {token : String} {value : Json} :
    (token, value) ∈ numbered tokens ↔
      ∃ id : Nat, value = .int id ∧ tokens[id]? = some token := by
  rw [numbered, List.mem_mapIdx]
  constructor
  · rintro ⟨id, hlt, h⟩
    rcases Prod.mk.injEq .. ▸ h with ⟨rfl, rfl⟩
    exact ⟨id, rfl, List.getElem?_eq_getElem hlt⟩
  · rintro ⟨id, rfl, h⟩
    rcases List.getElem?_eq_some_iff.1 h with ⟨hlt, rfl⟩
    exact ⟨id, hlt, rfl⟩

theorem mem_numbered_int {tokens : List String} {token : String} {id : Nat} :
    (token, .int id) ∈ numbered tokens ↔ tokens[id]? = some token := by
  rw [mem_numbered]
  constructor
  · rintro ⟨other, hvalue, h⟩
    rwa [Int.ofNat.inj (Json.int.inj hvalue)]
  · exact fun h => ⟨id, rfl, h⟩

theorem map_snd_numbered (tokens : List String) :
    (numbered tokens).map Prod.snd = firstIds tokens.length := by
  apply List.ext_getElem?
  intro id
  rw [numbered, firstIds, List.getElem?_map, List.getElem?_mapIdx, List.getElem?_map]
  by_cases hlt : id < tokens.length
  · rw [List.getElem?_eq_getElem hlt, List.getElem?_range hlt]
    rfl
  · rw [List.getElem?_eq_none (by omega), List.getElem?_eq_none (by rw [List.length_range]; omega)]
    rfl

theorem map_fst_numbered (tokens : List String) : (numbered tokens).map Prod.fst = tokens := by
  apply List.ext_getElem?
  intro id
  rw [numbered, List.getElem?_map, List.getElem?_mapIdx, Option.map_map]
  exact congrFun Option.map_id _

theorem mem_firstIds {count : Nat} {value : Json} :
    value ∈ firstIds count ↔ ∃ id < count, value = .int id := by
  rw [firstIds, List.mem_map]
  constructor
  · rintro ⟨id, hid, rfl⟩
    exact ⟨id, List.mem_range.1 hid, rfl⟩
  · rintro ⟨id, hid, rfl⟩
    exact ⟨id, List.mem_range.2 hid, rfl⟩

theorem nodup_firstIds (count : Nat) : (firstIds count).Nodup :=
  List.Nodup.map (fun _ _ h => Int.ofNat.inj (Json.int.inj h)) List.nodup_range

theorem nodup_numbered (tokens : List String) : (numbered tokens).Nodup := by
  apply List.Nodup.of_map Prod.snd
  rw [map_snd_numbered]
  exact nodup_firstIds _

/-- Tokens are found by their positions, so they are determined by their entries. -/
theorem numbered_injective {a b : List String} (h : (numbered a).Perm (numbered b)) : a = b := by
  apply List.ext_getElem?
  intro id
  apply Option.ext
  intro token
  rw [← mem_numbered_int, ← mem_numbered_int]
  exact h.mem_iff

/-! ## The table of ids -/

/-- A mapping to natural numbers, none of which comes twice. -/
structure DistinctIds (entries : List (String × Json)) : Prop where
  natural : ∀ entry ∈ entries, ∃ id : Nat, entry.2 = .int id
  nodup : (entries.map Prod.snd).Nodup

variable {entries : List (String × Json)} {placed : Std.HashMap Nat String} {tokens : List String}

/-- Tokens with their positions have the integers from zero on, in whatever order they stand. -/
theorem numbers_of_perm (h : entries.Perm (numbered tokens)) : Numbers entries := by
  have hids := h.map Prod.snd
  rwa [map_snd_numbered, ← length_numbered, ← h.length_eq] at hids

theorem Numbers.distinctIds (h : Numbers entries) : DistinctIds entries where
  natural := by
    intro entry hentry
    rcases mem_firstIds.1 (h.mem_iff.1 (List.mem_map_of_mem hentry)) with ⟨id, _, hid⟩
    exact ⟨id, hid⟩
  nodup := h.nodup_iff.2 (nodup_firstIds _)

/-- An entry with a natural number is put into the table when its number is not taken. -/
theorem placeEntries_cons (token : String) (id : Nat) (rest : List (String × Json)) :
    placeEntries ((token, .int id) :: rest) placed
      = if placed.contains id then .error (.sharedId token id)
        else placeEntries rest (placed.insert id token) := by
  rw [placeEntries]
  dsimp only [Json.int?]
  rw [if_neg (Int.not_lt.2 (Int.natCast_nonneg id)), Int.toNat_natCast]

/-- An entry that is put into the table has a natural number. -/
theorem eq_natural_of_placeEntries {token : String} {value : Json} {table : Std.HashMap Nat String}
    (h : placeEntries ((token, value) :: entries) placed = .ok table) :
    ∃ id : Nat, value = .int id := by
  unfold placeEntries at h
  split at h
  · cases h
  · next n hn =>
    split at h
    · cases h
    · next hnonneg =>
      rcases Int.eq_ofNat_of_zero_le (Int.not_lt.1 hnonneg) with ⟨id, rfl⟩
      cases value <;> cases hn
      exact ⟨id, rfl⟩

/-- What the table of ids holds: what it held before and the entries. Its size tells that no
    entry takes the place of another. -/
theorem placeEntries_eq_ok {table : Std.HashMap Nat String}
    (h : placeEntries entries placed = .ok table) :
    (∀ (id : Nat) token, table[id]? = some token ↔
      placed[id]? = some token ∨ (token, .int id) ∈ entries) ∧
      table.size = placed.size + entries.length := by
  -- What is in the table already is left open, since it grows with every entry.
  induction entries generalizing placed with
  | nil =>
    rw [placeEntries, Except.ok.injEq] at h
    subst h
    simp
  | cons entry rest ih =>
    rcases entry with ⟨name, value⟩
    rcases eq_natural_of_placeEntries h with ⟨i, rfl⟩
    rw [placeEntries_cons] at h
    by_cases hfresh : i ∈ placed
    · rw [if_pos (Std.HashMap.contains_iff_mem.2 hfresh)] at h
      cases h
    · rw [if_neg (mt Std.HashMap.contains_iff_mem.1 hfresh)] at h
      rcases ih h with ⟨hget, hsize⟩
      refine ⟨?_, ?_⟩
      · intro id token
        rw [hget, Std.HashMap.getElem?_insert, List.mem_cons, Prod.mk.injEq, Json.int.injEq,
          Int.natCast_inj]
        by_cases hid : i = id
        · subst hid
          simp [Std.HashMap.getElem?_eq_none hfresh, eq_comm]
        · simp [hid, Ne.symm hid]
      · rw [hsize, Std.HashMap.size_insert, if_neg hfresh, List.length_cons]
        omega

/-- Entries with natural numbers none of which comes twice can be put into a table. -/
theorem exists_placeEntries (h : DistinctIds entries)
    (hfresh : ∀ token (id : Nat), (token, .int id) ∈ entries → id ∉ placed) :
    ∃ table, placeEntries entries placed = .ok table := by
  induction entries generalizing placed with
  | nil => exact ⟨placed, rfl⟩
  | cons entry rest ih =>
    rcases entry with ⟨name, value⟩
    rcases h.natural _ List.mem_cons_self with ⟨i, hi⟩
    dsimp only at hi
    subst hi
    have hnotin : Json.int i ∉ rest.map Prod.snd := (List.nodup_cons.1 h.nodup).1
    have hrest : DistinctIds rest :=
      ⟨fun other hother => h.natural other (List.mem_cons_of_mem _ hother),
        (List.nodup_cons.1 h.nodup).2⟩
    have hinsert : ∀ token (id : Nat), (token, .int id) ∈ rest → id ∉ placed.insert i name := by
      intro token id hmem hid
      rcases Std.HashMap.mem_insert.1 hid with heq | hid
      · rw [eq_of_beq heq] at hnotin
        exact hnotin (List.mem_map_of_mem hmem)
      · exact hfresh token id (List.mem_cons_of_mem _ hmem) hid
    rcases ih hrest hinsert with ⟨table, htable⟩
    refine ⟨table, ?_⟩
    rw [placeEntries_cons, if_neg (mt Std.HashMap.contains_iff_mem.1 ?_), htable]
    exact hfresh name i List.mem_cons_self

/-- Collecting finds all ids, or the least one that is missing. -/
theorem collect_cases (placed : Std.HashMap Nat String) (count id : Nat) :
    (∃ tokens, collect placed count id = .ok tokens ∧ tokens.length = count ∧
      ∀ k < count, placed[id + k]? = tokens[k]?) ∨
    ∃ least, collect placed count id = .error (.missingId least) ∧ least < id + count ∧
      placed[least]? = none ∧ ∀ k, id ≤ k → k < least → placed[k]? ≠ none := by
  induction count generalizing id with
  | zero => exact Or.inl ⟨[], rfl, rfl, fun k hk => absurd hk (Nat.not_lt_zero k)⟩
  | succ count ih =>
    unfold collect
    cases hfirst : placed[id]? with
    | none =>
      refine Or.inr ⟨id, rfl, by omega, hfirst, ?_⟩
      intro k hle hlt
      omega
    | some token =>
      rcases ih (id + 1) with ⟨tokens, hok, hlength, hget⟩ | ⟨least, herror, hlt, hnone, hbelow⟩
      · refine Or.inl ⟨token :: tokens, by rw [hok]; rfl, by rw [List.length_cons, hlength], ?_⟩
        intro k hk
        cases k with
        | zero => exact hfirst
        | succ k =>
          rw [List.getElem?_cons_succ, ← hget k (by omega)]
          congr 1
          omega
      · refine Or.inr ⟨least, by rw [herror]; rfl, by omega, hnone, ?_⟩
        intro k hle hlt
        rcases Nat.eq_or_lt_of_le hle with rfl | hgt
        · rw [hfirst]
          exact Option.some_ne_none token
        · exact hbelow k hgt hlt

/-! ## Tokens in the order of their ids -/

/-- The tokens found are those of the entries: as many different ones as there are entries. -/
theorem perm_numbered_of_arrange (h : arrange entries = .ok tokens) :
    entries.Perm (numbered tokens) := by
  rcases bind_eq_ok_iff.1 h with ⟨table, htable, hcollect⟩
  rcases placeEntries_eq_ok htable with ⟨hget, hsize⟩
  rw [Std.HashMap.size_empty, Nat.zero_add] at hsize
  rcases collect_cases table table.size 0 with ⟨found, hok, hlength, hfound⟩ | ⟨least, herror, _⟩
  · rw [hok, Except.ok.injEq] at hcollect
    subst hcollect
    -- The table holds entries only, so what is found in it is among the entries.
    have hsubset : numbered found ⊆ entries := by
      rintro ⟨token, value⟩ hmem
      rcases mem_numbered.1 hmem with ⟨id, rfl, hid⟩
      have hlt : id < table.size := by
        rw [← hlength]
        exact (List.getElem?_eq_some_iff.1 hid).1
      rw [← hfound id hlt, Nat.zero_add, hget, Std.HashMap.getElem?_empty] at hid
      exact hid.resolve_left (Option.some_ne_none token).symm
    have hcount : entries.length ≤ (numbered found).length := by
      rw [length_numbered, hlength, hsize]
    -- Different entries, as many as there are, are all of them.
    exact ((List.subperm_of_subset (nodup_numbered found) hsubset).perm_of_length_le hcount).symm
  · rw [herror] at hcollect
    cases hcollect

/-- Collecting the tokens of entries with different ids fails for the least id that is missing,
    and for nothing else. -/
theorem arrange_cases (h : DistinctIds entries) : (∃ tokens, arrange entries = .ok tokens) ∨
    ∃ least < entries.length, arrange entries = .error (.missingId least) ∧
      IsLeast {id : Nat | ∀ token, (token, .int id) ∉ entries} least := by
  have hfresh : ∀ token (id : Nat), (token, .int id) ∈ entries →
      id ∉ (∅ : Std.HashMap Nat String) := by
    intro _ _ _
    exact Std.HashMap.not_mem_empty
  rcases exists_placeEntries h hfresh with ⟨table, htable⟩
  rcases placeEntries_eq_ok htable with ⟨hget, hsize⟩
  rw [Std.HashMap.size_empty, Nat.zero_add] at hsize
  have harrange : arrange entries = collect table table.size 0 := by
    rw [arrange, htable]
    rfl
  -- An id is missing from the table exactly when no entry has it.
  have hmem : ∀ id : Nat, table[id]? = none ↔ ∀ token, (token, .int id) ∉ entries := by
    intro id
    rw [Option.eq_none_iff_forall_ne_some]
    refine forall_congr' fun token => not_congr ?_
    rw [hget, Std.HashMap.getElem?_empty, or_iff_right (Option.some_ne_none token).symm]
  rw [harrange]
  rcases collect_cases table table.size 0 with
    ⟨found, hok, _, _⟩ | ⟨least, herror, hlt, hnone, hbelow⟩
  · exact Or.inl ⟨found, hok⟩
  · refine Or.inr ⟨least, by omega, herror, (hmem least).1 hnone, ?_⟩
    intro id hid
    by_contra hgt
    exact hbelow id (Nat.zero_le id) (Nat.lt_of_not_le hgt) ((hmem id).2 hid)

/-- When a mapping has tokens in the order of their ids. -/
theorem exists_arrange_iff : (∃ tokens, arrange entries = .ok tokens) ↔ Numbers entries := by
  constructor
  · rintro ⟨tokens, h⟩
    exact numbers_of_perm (perm_numbered_of_arrange h)
  · intro h
    rcases arrange_cases h.distinctIds with hok | ⟨least, hlt, _, hleast, _⟩
    · exact hok
    · -- All ids in range are there, so none of them is missing.
      have hvalue : Json.int least ∈ entries.map Prod.snd :=
        h.mem_iff.2 (mem_firstIds.2 ⟨least, hlt, rfl⟩)
      rcases List.mem_map.1 hvalue with ⟨⟨token, value⟩, hentry, rfl⟩
      exact absurd hentry (hleast token)

/-- The tokens of a mapping in the order of their ids. -/
theorem arrange_eq_ok_iff : arrange entries = .ok tokens ↔ entries.Perm (numbered tokens) := by
  constructor
  · exact perm_numbered_of_arrange
  · intro hperm
    rcases exists_arrange_iff.2 (numbers_of_perm hperm) with ⟨found, hfound⟩
    rw [hfound, numbered_injective (hperm.symm.trans (perm_numbered_of_arrange hfound))]

/-! ## Vocabularies of mappings -/

variable {wishes : Wishes} {extra : List Slot.Wish} {v : Vocabulary}

/-- What a mapping and its wishes have to meet to be a vocabulary. That no token comes twice is
    what makes the entries a mapping. -/
structure Acceptable (entries : List (String × Json)) (wishes : Wishes)
    (extra : List Slot.Wish) : Prop where
  nodup : (entries.map Prod.fst).Nodup
  numbers : Numbers entries
  known : ∀ wish ∈ wishes, ∃ slot : Slot, slot.name = wish.1
  slots_inRange : ∀ slot asked, wishFor wishes slot = some asked → asked.InRange entries.length
  extra_inRange : ∀ asked ∈ extra, asked.InRange entries.length
  unknown : ∃ asked, wishFor wishes .unk = some asked ∧ asked.FoundIn (entries.map Prod.fst)

/-- A vocabulary that says what a mapping and its wishes say. Its two directions are inverse to
    each other, between the tokens of the mapping and the ids below their number. -/
structure Represents (entries : List (String × Json)) (wishes : Wishes) (extra : List Slot.Wish)
    (v : Vocabulary) : Prop where
  size_eq : v.size = entries.length
  get?_iff : ∀ token (id : Nat), v.get? token = some id ↔ (token, .int id) ∈ entries
  reverse_iff : ∀ token (id : Nat), v.reverse id = .ok token ↔ v.get? token = some id
  exists_get?_iff : ∀ token, (∃ id, v.get? token = some id) ↔ token ∈ entries.map Prod.fst
  exists_reverse_iff : ∀ id, (∃ token, v.reverse id = .ok token) ↔ 0 ≤ id ∧ id < entries.length
  special : Fulfils v.tokens wishes extra v.special
  isSpecial_iff : ∀ id, v.isSpecial id = true ↔
    (∃ slot, v.special.inSlot slot = some id) ∨ id ∈ v.special.extra
  literal_iff : ∀ id, v.isSpecialValue (.int id) = true ↔
    ∃ token n, v.reverse id = .ok token ∧ v.literals.lookup token = some n ∧ id = (n : Int)

theorem ofMapping_eq_ok_iff :
    ofMapping entries wishes extra = .ok v ↔
      ∃ tokens, arrange entries = .ok tokens ∧ ofTokens tokens wishes extra = .ok v := by
  unfold ofMapping
  cases arrange entries with
  | error fault => simp
  | ok tokens => simp

/-- Special ids are those whose tokens are special by name. -/
theorem isSpecialValue_iff_literal {id : Int} : v.isSpecialValue (.int id) = true ↔
    ∃ token n, v.reverse id = .ok token ∧ v.literals.lookup token = some n ∧ id = (n : Int) := by
  rw [isSpecialValue_int]
  constructor
  · rintro ⟨n, rfl, hspecial⟩
    have hlt := v.special_lt n (isSpecial_iff.1 hspecial)
    have htoken : v.token? n = some v.tokens.keys[n] := Array.getElem?_eq_getElem hlt
    exact ⟨_, n, reverse_eq htoken, lookup_literals_iff.2 (mem_literals.2 ⟨hspecial, htoken⟩), rfl⟩
  · rintro ⟨token, n, _, hlookup, rfl⟩
    exact ⟨n, rfl, (mem_literals.1 (lookup_literals_iff.1 hlookup)).1⟩

/-- The tokens of a vocabulary are those of its mapping. -/
theorem tokens_perm_of_ofMapping (h : ofMapping entries wishes extra = .ok v) :
    (entries.map Prod.fst).Perm v.tokens.toList := by
  rcases ofMapping_eq_ok_iff.1 h with ⟨tokens, harrange, htokens⟩
  rcases ofTokens_fulfils htokens with ⟨rfl, _⟩
  rw [← map_fst_numbered v.tokens.toList]
  exact (arrange_eq_ok_iff.1 harrange).map Prod.fst

/-- A vocabulary of a mapping says what the mapping and its wishes say. -/
theorem represents_of_ofMapping (h : ofMapping entries wishes extra = .ok v) :
    Represents entries wishes extra v := by
  rcases ofMapping_eq_ok_iff.1 h with ⟨tokens, harrange, htokens⟩
  rcases ofTokens_fulfils htokens with ⟨rfl, hfulfils, _⟩
  have hperm := arrange_eq_ok_iff.1 harrange
  have hsize : v.size = entries.length := by
    rw [v.size_eq_length, hperm.length_eq, length_numbered]
  have hget : ∀ token (id : Nat), v.get? token = some id ↔ (token, .int id) ∈ entries := by
    intro token id
    rw [hperm.mem_iff, mem_numbered_int, get?_eq_some_iff, token?_eq_getElem?]
  exact
    { size_eq := hsize
      get?_iff := hget
      reverse_iff := by
        intro token id
        rw [reverse_eq_ok_iff, get?_eq_some_iff]
        constructor
        · rintro ⟨n, hn, htoken⟩
          rwa [Int.natCast_inj.1 hn]
        · exact fun htoken => ⟨id, rfl, htoken⟩
      exists_get?_iff := by
        intro token
        rw [(hperm.map Prod.fst).mem_iff, map_fst_numbered, ← get?_ne_none_iff,
          Option.ne_none_iff_exists']
        rfl
      exists_reverse_iff := by
        intro id
        rw [← hsize]
        constructor
        · rintro ⟨token, htoken⟩
          rcases reverse_eq_ok_iff.1 htoken with ⟨n, rfl, hn⟩
          have hlt : n < v.size := (Array.getElem?_eq_some_iff.1 hn).1
          omega
        · rintro ⟨hnonneg, hlt⟩
          rcases Int.eq_ofNat_of_zero_le hnonneg with ⟨n, rfl⟩
          have hn : n < v.tokens.keys.size := Int.ofNat_lt.1 hlt
          exact ⟨_, reverse_eq (Array.getElem?_eq_getElem hn)⟩
      special := hfulfils
      isSpecial_iff := by
        intro id
        rw [isSpecial_iff, v.specialIds_eq, SpecialTokens.mem_ids]
      literal_iff := fun _ => isSpecialValue_iff_literal }

/-- A mapping that is a vocabulary is acceptable. -/
theorem acceptable_of_ofMapping (h : ofMapping entries wishes extra = .ok v) :
    Acceptable entries wishes extra := by
  rcases ofMapping_eq_ok_iff.1 h with ⟨tokens, harrange, htokens⟩
  rcases ofTokens_fulfils htokens with ⟨rfl, _, hfulfillable⟩
  have hkeys := tokens_perm_of_ofMapping h
  have hsize : v.tokens.size = entries.length := (represents_of_ofMapping h).size_eq
  rcases exists_granted_some_iff.1 hfulfillable.unknown with ⟨asked, hasked, _, hfound⟩
  exact
    { nodup := hkeys.nodup_iff.2 v.tokens.nodup
      numbers := numbers_of_perm (arrange_eq_ok_iff.1 harrange)
      known := hfulfillable.known
      slots_inRange := hsize ▸ hfulfillable.slots_inRange
      extra_inRange := hsize ▸ hfulfillable.extra_inRange
      unknown := ⟨asked, hasked, hfound.perm hkeys.symm⟩ }

/-- An acceptable mapping is a vocabulary. -/
theorem exists_ofMapping (h : Acceptable entries wishes extra) :
    ∃ v, ofMapping entries wishes extra = .ok v := by
  rcases exists_arrange_iff.2 h.numbers with ⟨tokens, harrange⟩
  have hperm := arrange_eq_ok_iff.1 harrange
  have hkeys : (entries.map Prod.fst).Perm tokens := by
    rw [← map_fst_numbered tokens]
    exact hperm.map Prod.fst
  rcases Numbering.exists_ofList (hkeys.nodup_iff.1 h.nodup) with ⟨numbering, hlist, rfl⟩
  have hsize : entries.length = numbering.size := by
    rw [hperm.length_eq, length_numbered]
    exact Array.length_toList
  rcases h.unknown with ⟨asked, hasked, hfound⟩
  have hfulfillable : Fulfillable numbering wishes extra :=
    { known := h.known
      slots_inRange := hsize ▸ h.slots_inRange
      extra_inRange := hsize ▸ h.extra_inRange
      unknown := exists_granted_some_iff.2
        ⟨asked, hasked, hsize ▸ h.slots_inRange .unk asked hasked, hfound.perm hkeys⟩ }
  rcases exists_ofTokens_of_fulfillable hlist hfulfillable with ⟨v, hv⟩
  exact ⟨v, ofMapping_eq_ok_iff.2 ⟨_, harrange, hv⟩⟩

/-- The order of the entries has no say in what the vocabulary is, or whether there is one. -/
theorem ofMapping_perm {other : List (String × Json)} (h : other.Perm entries) :
    ofMapping other wishes extra = .ok v ↔ ofMapping entries wishes extra = .ok v := by
  rw [ofMapping_eq_ok_iff, ofMapping_eq_ok_iff]
  refine exists_congr fun tokens => and_congr_left' ?_
  rw [arrange_eq_ok_iff, arrange_eq_ok_iff, h.congr_left]

/-- A mapping is a vocabulary exactly when it is acceptable. The vocabulary says what the mapping
    says, and the order of the entries has no say in it. When the ids are different natural
    numbers with a gap, the error names the least number that is missing. -/
theorem ofMapping_represents (entries : List (String × Json)) (wishes : Wishes)
    (extra : List Slot.Wish) :
    ((∃ v, ofMapping entries wishes extra = .ok v) ↔ Acceptable entries wishes extra) ∧
      (∀ v, ofMapping entries wishes extra = .ok v → Represents entries wishes extra v) ∧
      (∀ other v, other.Perm entries →
        (ofMapping other wishes extra = .ok v ↔ ofMapping entries wishes extra = .ok v)) ∧
      (DistinctIds entries → ¬ Numbers entries →
        ∃ least, IsLeast {id : Nat | ∀ token, (token, .int id) ∉ entries} least ∧
          ofMapping entries wishes extra = .error (.load (.missingId least) none)) := by
  refine ⟨⟨?_, exists_ofMapping⟩, fun _ => represents_of_ofMapping, ?_, ?_⟩
  · rintro ⟨v, hv⟩
    exact acceptable_of_ofMapping hv
  · exact fun other v hperm => ofMapping_perm hperm
  · intro hdistinct hgap
    rcases arrange_cases hdistinct with hok | ⟨least, _, herror, hleast⟩
    · exact absurd (exists_arrange_iff.1 hok) hgap
    · refine ⟨least, hleast, ?_⟩
      unfold ofMapping
      rw [herror]

/-- A mapping out of order. -/
def shuffled : List (String × Json) := [("b", .int 2), ("<unk>", .int 0), ("<s>", .int 1)]

/-- Wishes for two slots, one by name and one by id. -/
def shuffledWishes : Wishes := [("unk", some (.oneOf ["?", "<unk>"])), ("bos", some (.id 1))]

theorem wishFor_shuffled (slot : Slot) : wishFor shuffledWishes slot =
    match slot with
    | .unk => some (.oneOf ["?", "<unk>"])
    | .bos => some (.id 1)
    | _ => none := by
  cases slot <;> simp [wishFor, shuffledWishes, Slot.name, List.lookup_cons]

theorem acceptable_shuffled :
    Acceptable shuffled shuffledWishes [.oneOf ["b"], .oneOf ["?"]] where
  nodup := by decide
  numbers := by
    have hturned : ([Json.int 2] ++ [Json.int 0, Json.int 1]).Perm
        ([Json.int 0, Json.int 1] ++ [Json.int 2]) := List.perm_append_comm
    exact hturned
  known := by
    rintro wish hwish
    rcases List.mem_pair.1 hwish with rfl | rfl
    · exact ⟨.unk, rfl⟩
    · exact ⟨.bos, rfl⟩
  slots_inRange := by
    intro slot asked hasked
    rw [wishFor_shuffled] at hasked
    cases slot <;> cases hasked
    · exact trivial
    · exact ⟨by decide, by decide⟩
  extra_inRange := by
    intro asked hasked
    rcases List.mem_pair.1 hasked with rfl | rfl
    · exact trivial
    · exact trivial
  unknown := by
    exact ⟨_, wishFor_shuffled .unk, "<unk>", by decide, by decide⟩

/-- A mapping out of order, in which the second candidate for the unknown token is there and a
    further special token is not. And a mapping with a gap. -/
theorem ofMapping_represents_of_shuffled :
    (∃ v, ofMapping shuffled shuffledWishes [.oneOf ["b"], .oneOf ["?"]] = .ok v ∧
      v.reverse 2 = .ok "b" ∧ v.special.inSlot .unk = some 0 ∧ v.special.inSlot .bos = some 1 ∧
      v.special.inSlot .pad = none ∧ v.isSpecial 2 = true) ∧
    ofMapping [("b", .int 2), ("a", .int 0)] [] [] = .error (.load (.missingId 1) none) := by
  constructor
  · rcases ofMapping_represents shuffled shuffledWishes [.oneOf ["b"], .oneOf ["?"]] with
      ⟨hiff, hrepresents, _, _⟩
    rcases hiff.2 acceptable_shuffled with ⟨v, hv⟩
    have h := hrepresents v hv
    have hb : v.get? "b" = some 2 := (h.get?_iff _ _).2 (by simp [shuffled])
    have hunk : v.get? "<unk>" = some 0 := (h.get?_iff _ _).2 (by simp [shuffled])
    have habsent : ∀ other ∈ ["?"], v.tokens.get? other = none := by
      intro other hother
      rw [List.mem_singleton.1 hother]
      by_contra hsome
      rcases Option.ne_none_iff_exists'.1 hsome with ⟨id, hid⟩
      have hmem := (h.exists_get?_iff "?").1 ⟨id, hid⟩
      revert hmem
      decide
    refine ⟨v, hv, (h.reverse_iff _ _).2 hb, ?_, ?_, ?_, ?_⟩
    · exact (h.special.slots .unk).unique (wishFor_shuffled .unk ▸ .first habsent hunk)
    · have hlt : 1 < v.tokens.size := by
        have hsize : v.tokens.size = 3 := h.size_eq
        omega
      exact (h.special.slots .bos).unique (wishFor_shuffled .bos ▸ .id hlt)
    · exact (h.special.slots .pad).unique (wishFor_shuffled .pad ▸ .unasked)
    · refine (h.isSpecial_iff 2).2 (Or.inr ((h.special.mem_extra_iff 2).2 ?_))
      have hnone : ∀ other ∈ ([] : List String), v.tokens.get? other = none := by simp
      exact ⟨.oneOf ["b"], List.mem_cons_self, .first hnone hb⟩
  · rcases ofMapping_represents [("b", .int 2), ("a", .int 0)] [] [] with ⟨_, _, _, hgap⟩
    have hdistinct : DistinctIds [("b", .int 2), ("a", .int 0)] := by
      refine ⟨?_, by simp⟩
      intro entry hentry
      rcases List.mem_pair.1 hentry with rfl | rfl
      · exact ⟨2, rfl⟩
      · exact ⟨0, rfl⟩
    have hnumbers : ¬ Numbers [("b", .int 2), ("a", .int 0)] := by
      intro h
      rcases mem_firstIds.1 (h.mem_iff.1 List.mem_cons_self) with ⟨id, hlt, hid⟩
      have heq : (2 : Int) = id := Json.int.inj hid
      rw [List.length_cons, List.length_singleton] at hlt
      omega
    rcases hgap hdistinct hnumbers with ⟨least, hleast, herror⟩
    have hone : IsLeast {id : Nat | ∀ token,
        (token, Json.int id) ∉ [("b", Json.int 2), ("a", .int 0)]} 1 := by
      refine ⟨by simp, ?_⟩
      intro id hid
      by_contra hlt
      have hzero : id = 0 := by omega
      rw [hzero] at hid
      exact hid "a" (by simp)
    rw [herror, hleast.unique hone]

end Vocabulary

end Subword
