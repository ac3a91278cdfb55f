import Mathlib.Algebra.GroupWithZero.Nat
import Subword.Batch
import Subword.Proofs.Encoding

/-!
# What padding adds

Filling up a row leaves the row as one block, at the beginning or at the end,
and everything else is filling. The mask is filled up in the same way, which is
why it tells the two apart. What is said here is said cell by cell, from where
the block begins, so that it can be read without knowing how a row is filled.

The width is that of the longest row, unless rows are filled up to the cap.
Texts that were encoded under the same options never exceed the cap, so then
the width is the cap itself. Without any row there is nothing to be as wide as
the cap: the empty batch has no width, whatever the options say.

## Main definitions

* `Batch.blockStart`: Where a row begins when it is filled up.
* `Batch.Shows`: The cells and the mask that a row has to have.
* `Batch.IsLongest`: The length of the longest row.
* `Batch.EncodedUnder`: The ids of a text under some options.
* `Config.filling`: Options under which rows are filled up to a cap.

## Theorems

* `Batch.getElem?_fill_inside`, `Batch.getElem?_fill_outside`: The cells of a row.
* `Batch.shows_fill`: A row that is filled up shows the row.
* `Batch.isLongest_foldl`: The length of the longest row is found.
* `Batch.EncodedUnder.admits`: The ids of a text never exceed the cap.
* `Batch.pad_shows`: A batch shows its rows, as wide as it has to be.
-/

namespace Subword

/-- Options under which rows are filled up to a cap, on the left. -/
def Config.filling (cap : Nat) (h : 0 < cap) : Config where
  cap := some cap
  lowercase := false
  addSpecial := true
  paddingSide := .left
  truncationSide := .right
  padding := .toCap
  cap_pos := by
    intro n hn
    rw [← Option.some.inj hn]
    exact h
  capped := fun _ => Option.some_ne_none cap

namespace Batch

variable {α : Type}

/-! ## One row -/

/-- Where a row of a given length begins when it is filled up on a given side. -/
def blockStart : Side → Nat → Nat → Nat
  | .right, _, _ => 0
  | .left, width, count => width - count

/-- The cells and the mask that a row has to have when it is filled up. -/
structure Shows (side : Side) (width : Nat) (filler : α) (row cells : List α)
    (mask : List Nat) : Prop where
  length_cells : cells.length = width
  length_mask : mask.length = width
  /-- There is room for the row. -/
  block_le : blockStart side width row.length + row.length ≤ width
  /-- The row stands in one block, under ones. -/
  inside : ∀ i < row.length, mask[blockStart side width row.length + i]? = some 1 ∧
    cells[blockStart side width row.length + i]? = row[i]?
  /-- In front of the block and behind it is filling, under zeros. -/
  outside : ∀ i < width, i < blockStart side width row.length ∨
    blockStart side width row.length + row.length ≤ i →
    mask[i]? = some 0 ∧ cells[i]? = some filler
  sum_mask : mask.sum = row.length

theorem blockStart_add_le {side : Side} {width count : Nat} (h : count ≤ width) :
    blockStart side width count + count ≤ width := by
  cases side with
  | left =>
    simp only [blockStart]
    omega
  | right =>
    simp only [blockStart]
    omega

theorem getElem?_fill_inside {side : Side} {width : Nat} (filler : α) {row : List α} {i : Nat}
    (hi : i < row.length) :
    (fill side width filler row)[blockStart side width row.length + i]? = row[i]? := by
  cases side with
  | left =>
    simp only [fill, blockStart]
    rw [List.getElem?_append_right (by rw [List.length_replicate]; omega), List.length_replicate,
      Nat.add_sub_cancel_left]
  | right =>
    simp only [fill, blockStart, Nat.zero_add]
    exact List.getElem?_append_left hi

theorem getElem?_fill_outside {side : Side} {width : Nat} (filler : α) {row : List α} {i : Nat}
    (hi : i < width) (hout : i < blockStart side width row.length ∨
      blockStart side width row.length + row.length ≤ i) :
    (fill side width filler row)[i]? = some filler := by
  cases side with
  | left =>
    -- Behind the block there is no cell, so this one is in front of it.
    simp only [blockStart] at hout
    simp only [fill]
    rw [List.getElem?_append_left (by rw [List.length_replicate]; omega),
      List.getElem?_replicate, if_pos (by omega)]
  | right =>
    simp only [blockStart] at hout
    simp only [fill]
    rw [List.getElem?_append_right (by omega), List.getElem?_replicate, if_pos (by omega)]

theorem sum_fill_ones (side : Side) (width count : Nat) :
    (fill side width 0 (List.replicate count 1)).sum = count := by
  cases side with
  | left => simp [fill]
  | right => simp [fill]

/-- A row that is filled up shows the row. -/
theorem shows_fill (side : Side) {width : Nat} (filler : α) {row : List α}
    (h : row.length ≤ width) : Shows side width filler row (fill side width filler row)
      (fill side width 0 (row.map fun _ => 1)) := by
  have hmap : (row.map fun _ => 1) = List.replicate row.length 1 := List.map_const'
  have hcount : (List.replicate row.length 1).length = row.length := List.length_replicate
  rw [hmap]
  refine
    { length_cells := ?_
      length_mask := ?_
      block_le := blockStart_add_le h
      inside := ?_
      outside := ?_
      sum_mask := sum_fill_ones side width row.length }
  · rw [length_fill]
    omega
  · rw [length_fill, hcount]
    omega
  · -- The mask is a row of ones that is filled up with zeros, so the same lemmas tell its cells.
    intro i hi
    have hi' : i < (List.replicate row.length 1).length := by omega
    have hmask : (fill side width 0 (List.replicate row.length 1))[
        blockStart side width (List.replicate row.length 1).length + i]?
        = (List.replicate row.length 1)[i]? := getElem?_fill_inside 0 hi'
    rw [hcount] at hmask
    rw [hmask, List.getElem?_replicate, if_pos hi]
    exact ⟨rfl, getElem?_fill_inside filler hi⟩
  · intro i hi hout
    refine ⟨?_, getElem?_fill_outside filler hi hout⟩
    apply getElem?_fill_outside 0 hi
    rw [hcount]
    exact hout

/-! ## The width -/

/-- The length of the longest row. -/
def IsLongest (rows : List (List α)) (length : Nat) : Prop :=
  (∀ row ∈ rows, row.length ≤ length) ∧ ∃ row ∈ rows, row.length = length

/-- The greatest of some numbers, and of zero. -/
theorem foldl_max_spec (lengths : List Nat) : lengths.foldl max 0 ∈ 0 :: lengths ∧
    ∀ length ∈ 0 :: lengths, length ≤ lengths.foldl max 0 :=
  List.max?_eq_some_iff.1 List.max?_cons'

theorem length_le_foldl_max {rows : List (List α)} {row : List α} (h : row ∈ rows) :
    row.length ≤ (rows.map List.length).foldl max 0 :=
  (foldl_max_spec _).2 _ (List.mem_cons_of_mem 0 (List.mem_map_of_mem h))

/-- The length of the longest row is found. -/
theorem isLongest_foldl {rows : List (List α)} (h : rows ≠ []) :
    IsLongest rows ((rows.map List.length).foldl max 0) := by
  refine ⟨fun row hrow => length_le_foldl_max hrow, ?_⟩
  rcases List.mem_cons.1 (foldl_max_spec (rows.map List.length)).1 with hzero | hmem
  · -- All rows are empty, so any of them will do.
    rcases List.exists_mem_of_ne_nil rows h with ⟨row, hrow⟩
    have hle := length_le_foldl_max hrow
    exact ⟨row, hrow, by omega⟩
  · exact List.mem_map.1 hmem

/-- The width of a batch is the length of its longest row, raised to the cap if rows are filled
    up to it. -/
theorem widthOf_cases (config : Config) (rows : List (List α)) :
    (config.padding = .longest →
      widthOf config rows = (rows.map List.length).foldl max 0) ∧
    (config.padding = .toCap → ∃ cap, config.cap = some cap ∧
      widthOf config rows = max ((rows.map List.length).foldl max 0) cap) := by
  refine ⟨?_, ?_⟩
  · intro hpadding
    simp only [widthOf, hpadding]
  · intro hpadding
    -- Options are only accepted with a cap for rows to be filled up to.
    rcases Option.ne_none_iff_exists'.1 (config.capped hpadding) with ⟨cap, hcap⟩
    refine ⟨cap, hcap, ?_⟩
    simp only [widthOf, hpadding, hcap]

theorem length_le_widthOf (config : Config) {rows : List (List α)} {row : List α}
    (h : row ∈ rows) : row.length ≤ widthOf config rows := by
  have hle := length_le_foldl_max h
  have hcases := widthOf_cases config rows
  cases hpadding : config.padding with
  | longest =>
    rw [hcases.1 hpadding]
    exact hle
  | toCap =>
    rcases hcases.2 hpadding with ⟨cap, _, hwidth⟩
    rw [hwidth]
    omega

/-! ## Rows of ids -/

/-- The ids of a text under some options, whatever the tokenizer and the policy. -/
def EncodedUnder (config : Config) (ids : List Nat) : Prop :=
  ∃ (S : Type) (_ : Score S) (t : Tokenizer S) (text : String) (policy : Option SpecialPolicy)
    (encoded : Encoded), (t.encode text (some config) policy).result = .ok encoded ∧
      encoded.ids = ids

/-- The ids of a text never exceed the cap. -/
theorem EncodedUnder.admits {config : Config} {ids : List Nat} (h : EncodedUnder config ids) :
    config.Admits ids.length := by
  rcases h with ⟨S, _, t, text, policy, encoded, hencoded, rfl⟩
  rcases Tokenizer.exists_fits t text (some config) policy hencoded with ⟨_, _, _, hfits⟩
  exact hfits.admits

/-- Rows that the cap allows make a batch that it allows. -/
theorem widthOf_le {config : Config} {rows : List (List α)} (hne : rows ≠ [])
    (hrows : ∀ row ∈ rows, config.Admits row.length) {cap : Nat} (hcap : config.cap = some cap) :
    widthOf config rows ≤ cap ∧ (config.padding = .toCap → widthOf config rows = cap) := by
  rcases (isLongest_foldl hne).2 with ⟨row, hrow, hlength⟩
  have hle := hrows row hrow cap hcap
  have hcases := widthOf_cases config rows
  cases hpadding : config.padding with
  | longest =>
    rw [hcases.1 hpadding]
    exact ⟨by omega, fun h => absurd h (by decide)⟩
  | toCap =>
    rcases hcases.2 hpadding with ⟨cap', hcap', hwidth⟩
    rw [hcap, Option.some.injEq] at hcap'
    rw [hwidth]
    exact ⟨by omega, fun _ => by omega⟩

/-! ## Batches -/

/-- A batch shows its rows in order, each in one block and filled up on one side. It is as wide
    as the longest row, or as the cap if rows are filled up to it, which rows that were encoded
    under the same options never exceed. The batch without rows has no width. -/
theorem pad_shows (config : Config) (filler : α) (rows : List (List α)) (ofId : Nat → α) :
    (pad config filler rows).rows.length = rows.length ∧
    (pad config filler rows).mask.length = rows.length ∧
    (pad config filler rows).lengths = rows.map List.length ∧
    (∀ (i : Nat) (row : List α), rows[i]? = some row → ∃ cells mask,
      (pad config filler rows).rows[i]? = some cells ∧
      (pad config filler rows).mask[i]? = some mask ∧
      Shows config.paddingSide (pad config filler rows).width filler row cells mask) ∧
    (rows = [] → (pad config filler rows).width = 0) ∧
    (rows ≠ [] → ∃ longest, IsLongest rows longest ∧
      (config.padding = .longest → (pad config filler rows).width = longest) ∧
      (config.padding = .toCap → ∃ cap, config.cap = some cap ∧
        (pad config filler rows).width = max longest cap)) ∧
    (rows ≠ [] → (∀ row ∈ rows, ∃ ids, EncodedUnder config ids ∧ row = ids.map ofId) →
      ∀ cap, config.cap = some cap → (pad config filler rows).width ≤ cap ∧
        (config.padding = .toCap → (pad config filler rows).width = cap)) := by
  by_cases hne : rows = []
  · subst hne
    refine ⟨rfl, rfl, rfl, ?_, fun _ => rfl, fun h => absurd rfl h, fun h => absurd rfl h⟩
    intro i row h
    cases h
  · have hpad : pad config filler rows =
        { rows := rows.map (fill config.paddingSide (widthOf config rows) filler)
          mask := rows.map fun row =>
            fill config.paddingSide (widthOf config rows) 0 (row.map fun _ => 1)
          width := widthOf config rows
          lengths := rows.map List.length } := by
      unfold pad
      rw [if_neg (by rwa [List.isEmpty_iff])]
    rw [hpad]
    refine ⟨List.length_map _, List.length_map _, rfl, ?_, fun h => absurd h hne, ?_, ?_⟩
    · intro i row h
      simp only [List.getElem?_map, h, Option.map_some]
      exact ⟨_, _, rfl, rfl,
        shows_fill _ filler (length_le_widthOf config (List.mem_of_getElem? h))⟩
    · intro _
      exact ⟨_, isLongest_foldl hne, widthOf_cases config rows⟩
    · intro _ hrows cap hcap
      refine widthOf_le hne ?_ hcap
      intro row hrow
      rcases hrows row hrow with ⟨ids, hids, rfl⟩
      rw [List.length_map]
      exact hids.admits

/-- Two texts under a cap of four, filled up on the left: one of them is a special token, and the
    other one is empty. -/
theorem pad_shows_of_left :
    (∀ row ∈ [[1, 0, 2], [1, 2]], EncodedUnder (Config.filling 4 (by decide)) row) ∧
    (pad (Config.filling 4 (by decide)) 9 [[1, 0, 2], [1, 2]]).width = 4 ∧
    ∃ cells mask, (pad (Config.filling 4 (by decide)) 9 [[1, 0, 2], [1, 2]]).rows[1]?
        = some cells ∧
      (pad (Config.filling 4 (by decide)) 9 [[1, 0, 2], [1, 2]]).mask[1]? = some mask ∧
      Shows .left 4 9 [1, 2] cells mask := by
  rcases Tokenizer.exists_bounded (Config.filling 4 (by decide)) with
    ⟨t, _, hv, hbounds, htokenize⟩
  rcases hbounds (Config.filling 4 (by decide)) rfl with ⟨hstart, hend⟩
  have hadmits : ∀ count ≤ 4, (Config.filling 4 (by decide)).Admits count := by
    intro count hle cap hcap
    rwa [← Option.some.inj hcap]
  have hcount : t.wrappingCount (Config.filling 4 (by decide)) = 2 := by
    rw [Tokenizer.wrappingCount, hstart, hend]
    rfl
  -- Two tokens have room beside those around a text.
  have hencoded : ∀ text tokens, tokens.length ≤ 2 →
      (t.tokenize text (some (Config.filling 4 (by decide))) (some .all)).result = .ok tokens →
      EncodedUnder (Config.filling 4 (by decide))
        ([1] ++ tokens.map t.vocabulary.lookup ++ [2]) := by
    intro text tokens hle htokens
    have hwraps := Tokenizer.result_encode_of_admits t text
      (some (Config.filling 4 (by decide))) (some .all)
      (hadmits _ (by rw [Tokenizer.numSpecial, Option.getD_some, hcount]; decide))
    rw [htokens] at hwraps
    rcases Tokenizer.exists_fits t _ _ _ hwraps with ⟨same, kept, hsame, hfits⟩
    rw [htokens, Except.ok.injEq] at hsame
    subst hsame
    rw [Option.getD_some] at hfits
    have hkept := hfits.kept_eq (hadmits _ (by omega))
    refine ⟨Float, inferInstance, t, text, some .all, _, hwraps, ?_⟩
    rw [Option.getD_some, hfits.ids_eq, hstart, hend, hkept]
  have hunk : t.vocabulary.lookup "<unk>" = 0 := by
    apply Vocabulary.lookup_eq
    rw [Vocabulary.token?_eq_getElem?, hv]
    rfl
  have hrows : ∀ row ∈ [[1, 0, 2], [1, 2]],
      EncodedUnder (Config.filling 4 (by decide)) row := by
    intro row hrow
    simp only [List.mem_cons, List.not_mem_nil, or_false] at hrow
    rcases hrow with rfl | rfl
    · have h := hencoded "<unk>" ["<unk>"] (by decide) (htokenize _ _ _ (by decide +kernel))
      rwa [List.map_singleton, hunk] at h
    · exact hencoded "" [] (by decide) (htokenize _ _ _ rfl)
  have h := pad_shows (Config.filling 4 (by decide)) 9 [[1, 0, 2], [1, 2]] id
  rcases h with ⟨_, _, _, hshows, _, _, hwidth⟩
  have hfour : (pad (Config.filling 4 (by decide)) 9 [[1, 0, 2], [1, 2]]).width = 4 := by
    refine (hwidth (by decide) ?_ 4 rfl).2 rfl
    intro row hrow
    exact ⟨row, hrows row hrow, (List.map_id row).symm⟩
  have hsecond := hshows 1 [1, 2] rfl
  rw [hfour] at hsecond
  exact ⟨hrows, hfour, hsecond⟩

/-- Without any row, a batch is not as wide as the cap that rows are to be filled up to. -/
theorem width_pad_nil_ne_cap : (Config.filling 4 (by decide)).padding = .toCap ∧
    (Config.filling 4 (by decide)).cap = some 4 ∧
    (pad (Config.filling 4 (by decide)) 0 ([] : List (List Nat))).width ≠ 4 :=
  ⟨rfl, rfl, by decide⟩

end Batch

end Subword
