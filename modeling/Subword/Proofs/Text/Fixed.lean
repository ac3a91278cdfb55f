import Subword.Proofs.Text.Parting
import Subword.Proofs.Text.PointSet

/-!
# Characters that a change of texts leaves

What a character decomposes into is not taken apart any further, and lower case
has no other lower case. Neither follows from how the changes are made. Both are
facts about the tables, and so is the third one here, which is what the two
changes have to do with each other: the parts of a lower case character are in
lower case.

Each of the facts says that the code points that come out of a table avoid those
that go into one. The latter are gathered into a set, and the former are tested
one by one, which is a single evaluation for each of the facts.

## Main definitions

* `Decomposition.Part`: What the tables and the arithmetic of hangul make of a code point.
* `Decomposition.keys`: The code points that are taken apart.
* `Case.capitals`: The code points that lower case changes.
* `IsLower`: A character that lower case leaves wherever it stands.

## Theorems

* `decomposeChar_of_mem`: The parts of a character are not taken apart.
* `isLower_of_mem_lowerAt`: Lower case is in lower case.
* `isLower_of_mem_decomposeChar`: So are the parts of a character in lower case.
* `lower_eq_self`: A text in lower case is left as it is.
-/

namespace Subword

namespace Text

variable {c d : Char} {point part : Nat}

/-! ## Decomposition -/

namespace Decomposition

/-- The entries of all decomposition tables. -/
def entries : List (Span (List Nat)) :=
  [latin, greekToHebrew, indic, latinAdditional, greekExtended, symbolsAndKana,
    compatibilityIdeographs, supplement].flatMap Array.toList

/-- The letters that the syllables of hangul are made of, and some more around them. -/
def letters : List Nat := List.range' 0x1100 0x100

/-- What a code point is taken apart into: by an entry of a table, or as a syllable of hangul. -/
inductive Part : Nat → Nat → Prop
  | entry {span : Span (List Nat)} {part : Nat} (mem : span ∈ entries) (of : part ∈ span.value) :
    Part span.first part
  | syllable {point part : Nat} (low : 0xAC00 ≤ point) (high : point ≤ 0xD7A3)
    (mem : part ∈ hangul (point - 0xAC00)) : Part point part

/-- The code points that are taken apart. -/
def keys : PointSet :=
  (PointSet.ofRange 0xAC00 0xD7A3).union
    (PointSet.ofRanges (entries.map fun span => (span.first, span.last)))

/-- The syllables are numbered from zero on, and each is made of letters. -/
theorem mem_letters_of_mem_hangul {index : Nat} (hindex : index ≤ 0x2BA3)
    (h : part ∈ hangul index) : part ∈ letters := by
  have hrange : 0x1100 ≤ part ∧ part < 0x1200 := by
    rw [hangul] at h
    split at h <;> simp only [List.mem_cons, List.not_mem_nil, or_false] at h <;> omega
  rw [letters, List.mem_range'_1]
  omega

/-- An entry is about one code point, and its parts are characters. -/
theorem entries_single : (entries.all fun span =>
    span.first == span.last && span.value.all fun part => decide part.isValidChar) = true := by
  decide +kernel

/-- The parts in the entries are none of some code points, nor are the letters of hangul, so no
    code point is taken apart into one of these. There may be code points about which nothing is
    said. -/
theorem Part.avoids {set : PointSet} (exempt : Nat → Bool)
    (hentries : (entries.all fun span =>
      (span.value.all fun part => !set.contains part) || exempt span.first) = true)
    (hletters : (letters.all fun part => !set.contains part) = true) (h : Part point part)
    (hpoint : exempt point = false) : set.contains part = false := by
  rw [← Bool.not_eq_true']
  cases h with
  | entry mem of =>
    have hspan := List.all_eq_true.1 hentries _ mem
    rw [hpoint, Bool.or_false] at hspan
    exact List.all_eq_true.1 hspan part of
  | syllable low high mem =>
    exact List.all_eq_true.1 hletters part (mem_letters_of_mem_hangul (by omega) mem)

/-- What a code point is taken apart into is a character. -/
theorem Part.isValidChar (h : Part point part) : part.isValidChar := by
  cases h with
  | entry mem of =>
    have hspan := List.all_eq_true.1 entries_single _ mem
    rw [Bool.and_eq_true] at hspan
    exact of_decide_eq_true (List.all_eq_true.1 hspan.2 part of)
  | syllable low high mem =>
    have hletter := mem_letters_of_mem_hangul (by omega) mem
    rw [letters, List.mem_range'_1] at hletter
    exact Or.inl (by omega)

/-- It is not taken apart any further. -/
theorem Part.not_key (h : Part point part) : keys.contains part = false :=
  h.avoids (fun _ => false) (by decide +kernel) (by decide +kernel) rfl

theorem mem_entries {span : Span (List Nat)} (h : span ∈ (tableFor point).toList) :
    span ∈ entries := by
  refine List.mem_flatMap.2 ⟨tableFor point, ?_, h⟩
  rw [tableFor]
  repeat' split
  all_goals simp only [List.mem_cons, true_or, or_true]

/-- A code point decomposes into itself, or into what it is taken apart into. -/
theorem ofPoint_cases (point : Nat) :
    ofPoint point = [point] ∨ ∀ part ∈ ofPoint point, Part point part := by
  rw [ofPoint]
  split
  · next hsyllable =>
    simp only [Bool.and_eq_true, decide_eq_true_eq] at hsyllable
    exact Or.inr fun part hpart => .syllable hsyllable.1 hsyllable.2 hpart
  · split
    · exact Or.inl rfl
    · next span hfind =>
      rcases Span.mem_of_find? hfind with ⟨hmem, hfirst, hlast⟩
      have hspan := List.all_eq_true.1 entries_single span (mem_entries hmem)
      rw [Bool.and_eq_true, beq_iff_eq] at hspan
      obtain rfl : span.first = point := by omega
      exact Or.inr fun part hpart => .entry (mem_entries hmem) hpart

theorem ofPoint_eq_self (h : keys.contains point = false) : ofPoint point = [point] := by
  rw [keys, PointSet.contains_union, Bool.or_eq_false_iff] at h
  have hsyllable : ¬ (0xAC00 ≤ point ∧ point ≤ 0xD7A3) := by
    rw [← PointSet.contains_ofRange, h.1]
    exact Bool.false_ne_true
  have hfind : Span.find? (tableFor point) point = none := by
    cases hfind : Span.find? (tableFor point) point with
    | none => rfl
    | some span =>
      -- The span would have put the code point into the set.
      rcases Span.mem_of_find? hfind with ⟨hmem, hcovers⟩
      have hrange : (span.first, span.last) ∈ entries.map fun span => (span.first, span.last) :=
        List.mem_map_of_mem (mem_entries hmem)
      rw [PointSet.contains_ofRanges.2 ⟨_, hrange, hcovers⟩] at h
      cases h.2
  rw [ofPoint, hfind, if_neg]
  rwa [Bool.and_eq_true, decide_eq_true_eq, decide_eq_true_eq]

end Decomposition

/-- A character decomposes into itself, or into what it is taken apart into. -/
theorem decomposeChar_cases (c : Char) :
    decomposeChar c = [c] ∨ ∀ d ∈ decomposeChar c, Decomposition.Part c.toNat d.toNat := by
  rw [decomposeChar]
  rcases Decomposition.ofPoint_cases c.toNat with hself | hparts
  · rw [hself, List.map_singleton, Char.ofNat_toNat]
    exact Or.inl rfl
  · right
    intro d hd
    rcases List.mem_map.1 hd with ⟨part, hpart, rfl⟩
    rw [toNat_charOfNat (hparts part hpart).isValidChar]
    exact hparts part hpart

/-- The parts of a character are not taken apart. -/
theorem decomposeChar_of_mem (h : d ∈ decomposeChar c) : decomposeChar d = [d] := by
  rcases decomposeChar_cases c with hself | hparts
  · rw [hself, List.mem_singleton] at h
    rw [h, hself]
  · rw [decomposeChar, Decomposition.ofPoint_eq_self (hparts d h).not_key, List.map_singleton,
      Char.ofNat_toNat]

/-! ## Lower case -/

namespace Case

/-- How far from its first code point those are that a span moves. -/
def offsets (span : Span Shift) : List Nat :=
  (List.range (span.last + 1 - span.first)).filter fun offset => offset % span.value.stride = 0

/-- The code points that lower case changes. -/
def capitals : PointSet :=
  PointSet.ofRanges <| ('İ'.toNat :: lowerTable.toList.flatMap fun span =>
    (offsets span).map (span.first + ·)).map fun point => (point, point)

/-- The code points that lower case changes others into. -/
def lowered : List Nat :=
  ['i', '\u0307', 'σ', 'ς'].map Char.toNat ++ lowerTable.toList.flatMap fun span =>
    (offsets span).map (span.value.image + ·)

theorem isValidChar_of_mem_lowered (h : point ∈ lowered) : point.isValidChar := by
  have hall : (lowered.all fun point => decide point.isValidChar) = true := by
    decide +kernel
  exact of_decide_eq_true (List.all_eq_true.1 hall point h)

theorem not_capital_of_mem_lowered (h : point ∈ lowered) : capitals.contains point = false := by
  have hall : (lowered.all fun point => !capitals.contains point) = true := by
    decide +kernel
  rw [← Bool.not_eq_true']
  exact List.all_eq_true.1 hall point h

/-- A code point stays where it is, or it is moved to one of those. -/
theorem move_cases (point : Nat) : move lowerTable point = point ∨
    capitals.contains point = true ∧ move lowerTable point ∈ lowered := by
  rw [move]
  split
  · exact Or.inl rfl
  · next span hfind =>
    split
    · next hstride =>
      rcases Span.mem_of_find? hfind with ⟨hmem, hfirst, hlast⟩
      have hoffset : point - span.first ∈ offsets span :=
        List.mem_filter.2 ⟨List.mem_range.2 (by omega), decide_eq_true hstride⟩
      refine Or.inr ⟨PointSet.contains_ofRanges.2 ⟨(point, point), ?_, le_refl _, le_refl _⟩, ?_⟩
      · refine List.mem_map.2 ⟨point, List.mem_cons_of_mem _ ?_, rfl⟩
        exact List.mem_flatMap.2 ⟨span, hmem, List.mem_map.2 ⟨_, hoffset, by omega⟩⟩
      · exact List.mem_append_right _
          (List.mem_flatMap.2 ⟨span, hmem, List.mem_map_of_mem hoffset⟩)
    · exact Or.inl rfl

end Case

/-- A character that lower case leaves wherever it stands. -/
def IsLower (c : Char) : Prop :=
  ∀ afterCased rest, lowerAt afterCased c rest = [c]

theorem isLower_of_capitals (h : Case.capitals.contains c.toNat = false) : IsLower c := by
  have hsigma : c ≠ 'Σ' := PointSet.ne_of_contains h (by decide +kernel)
  have hdotted : c ≠ 'İ' := PointSet.ne_of_contains h (by decide +kernel)
  intro afterCased rest
  rw [lowerAt, if_neg hsigma, lowerChar, if_neg hdotted]
  rcases Case.move_cases c.toNat with hself | ⟨hmoved, _⟩
  · rw [hself, Char.ofNat_toNat]
  · rw [h] at hmoved
    cases hmoved

/-- A character is in lower case, or it changes into some that are known. -/
theorem isLower_or_lowered (c : Char) : IsLower c ∨
    ∀ afterCased rest, ∀ d ∈ lowerAt afterCased c rest, d.toNat ∈ Case.lowered := by
  -- Two capitals have rules of their own. All others move as the table says.
  by_cases hsigma : c = 'Σ'
  · right
    intro afterCased rest d hd
    rw [lowerAt, if_pos hsigma] at hd
    split at hd <;> rw [List.mem_singleton.1 hd] <;> decide +kernel
  · by_cases hdotted : c = 'İ'
    · right
      intro afterCased rest d hd
      rw [lowerAt, if_neg hsigma, lowerChar, if_pos hdotted] at hd
      simp only [List.mem_cons, List.not_mem_nil, or_false] at hd
      rcases hd with rfl | rfl <;> decide +kernel
    · have hat : ∀ afterCased rest, lowerAt afterCased c rest
          = [Char.ofNat (Case.move Case.lowerTable c.toNat)] := by
        intro afterCased rest
        rw [lowerAt, if_neg hsigma, lowerChar, if_neg hdotted]
      rcases Case.move_cases c.toNat with hself | ⟨_, hmoved⟩
      · left
        intro afterCased rest
        rw [hat, hself, Char.ofNat_toNat]
      · right
        intro afterCased rest d hd
        rw [hat, List.mem_singleton] at hd
        rwa [hd, toNat_charOfNat (Case.isValidChar_of_mem_lowered hmoved)]

/-- What lower case makes of a character is in lower case. -/
theorem isLower_of_mem_lowerAt {afterCased : Bool} {rest : List Char}
    (h : d ∈ lowerAt afterCased c rest) : IsLower d := by
  rcases isLower_or_lowered c with hlower | hlowered
  · have hself := h
    rw [hlower, List.mem_singleton] at hself
    rwa [hself]
  · exact isLower_of_capitals (Case.not_capital_of_mem_lowered (hlowered _ _ d h))

theorem IsLower.move_eq (h : IsLower c) :
    c ≠ 'İ' ∧ Case.move Case.lowerTable c.toNat = c.toNat := by
  have hself := h false []
  have hsigma : c ≠ 'Σ' := by
    rintro rfl
    exact absurd hself (by decide +kernel)
  rw [lowerAt, if_neg hsigma, lowerChar] at hself
  split at hself
  · cases hself
  · next hdotted =>
    refine ⟨hdotted, ?_⟩
    rcases Case.move_cases c.toNat with hmove | ⟨_, hmoved⟩
    · exact hmove
    · rw [← toNat_charOfNat (Case.isValidChar_of_mem_lowered hmoved), (List.cons.inj hself).1]

/-- The parts of a character in lower case are in lower case. -/
theorem isLower_of_mem_decomposeChar (hc : IsLower c) (h : d ∈ decomposeChar c) : IsLower d := by
  rcases decomposeChar_cases c with hself | hparts
  · rw [hself, List.mem_singleton] at h
    rwa [h]
  · -- An entry has capitals among its parts only if it is about a capital itself.
    apply isLower_of_capitals
    apply (hparts d h).avoids fun point =>
      point == 'İ'.toNat || Case.move Case.lowerTable point != point
    · decide +kernel
    · decide +kernel
    · rw [hc.move_eq.2, bne_self_eq_false, Bool.or_false, beq_eq_false_iff_ne, Ne, Char.toNat_inj]
      exact hc.move_eq.1

/-! ## Texts in lower case -/

variable {s : List Char}

/-- The characters of a text in lower case come from those of the text. -/
theorem mem_lower (h : d ∈ lower s) :
    ∃ c ∈ s, ∃ afterCased rest, d ∈ lowerAt afterCased c rest := by
  have hall : ∀ (s : List Char) (afterCased : Bool), d ∈ lowerOnto [] afterCased s →
      ∃ c ∈ s, ∃ afterCased rest, d ∈ lowerAt afterCased c rest := by
    intro s
    induction s with
    | nil =>
      intro afterCased h
      cases h
    | cons c s ih =>
      intro afterCased h
      rw [lowerOnto, lowerOnto_eq, List.reverseAux_eq, List.append_nil, List.reverse_reverse,
        List.mem_append] at h
      rcases h with hat | hmore
      · exact ⟨c, List.mem_cons_self, afterCased, s, hat⟩
      · rcases ih _ hmore with ⟨e, he, hat⟩
        exact ⟨e, List.mem_cons_of_mem c he, hat⟩
  exact hall s false h

theorem isLower_of_mem_lower (h : d ∈ lower s) : IsLower d := by
  rcases mem_lower h with ⟨_, _, _, _, hat⟩
  exact isLower_of_mem_lowerAt hat

/-- A text in lower case is left as it is. -/
theorem lower_eq_self (h : ∀ c ∈ s, IsLower c) : lower s = s := by
  have hall : ∀ afterCased, lowerOnto [] afterCased s = s := by
    induction s with
    | nil => exact fun _ => rfl
    | cons c s ih =>
      intro afterCased
      rw [lowerOnto, lowerOnto_eq, h c List.mem_cons_self,
        ih fun d hd => h d (List.mem_cons_of_mem c hd)]
      rfl
  exact hall false

/-- A text of characters that are not taken apart is left as it is. -/
theorem flatMap_decomposeChar_eq_self (h : ∀ c ∈ s, decomposeChar c = [c]) :
    s.flatMap decomposeChar = s := by
  induction s with
  | nil => rfl
  | cons c s ih =>
    rw [List.flatMap_cons, h c List.mem_cons_self, List.singleton_append,
      ih fun d hd => h d (List.mem_cons_of_mem c hd)]

end Text

end Subword
