import Subword.Proofs.Text.Fixed
import Subword.Proofs.Text.MarkOrder
import Subword.Proofs.WordPiece.Normalize

/-!
# Texts that have been normalised

Cleaning comes first, and the later steps do not undo it: neither lower case nor
decomposition makes a control character or a blank of a character that is
neither. Together with what the tables say about these two, every character of a
normalised text is one that each step leaves as it is.

Decomposition does not only look at characters, though. It puts marks in order,
and after that some characters are dropped. Where one of class zero is dropped,
marks can meet that are not in order. So this is what is left to do for a second
pass, and it is all that is left.

## Main definitions

* `WordPiece.controls`: The code points that cleaning does not leave.
* `WordPiece.Normal`: A character that every step leaves as it is.
* `WordPiece.unstripped`: The text before accents are dropped.

## Theorems

* `WordPiece.cleanChar_of_mem_lowerAt`, `WordPiece.cleanChar_of_mem_decomposeChar`: Clean
  characters stay clean.
* `WordPiece.normal_of_mem_normalize`: The characters of a normalised text are such.
* `WordPiece.normalize_of_normal`: What normalisation does to a text of such characters.
* `WordPiece.normalize_normalize`: What a second pass does.
* `WordPiece.inOrder_normalize`: When there is nothing left to do for it.
-/

namespace Subword

namespace WordPiece

open Text

variable {c d : Char} {s : List Char} {w : WordPiece} {lowercase : Bool}

/-! ## Characters that stay clean -/

/-- Whether cleaning does not leave the characters of a category. -/
def unclean : Category → Bool
  | .zs | .cc | .cf => true
  | _ => false

/-- The spans that have a code point of such a category. -/
def uncleanSpans : List (Span Category.Turns) :=
  ([Category.alphabets, Category.symbolsAndIdeographs, Category.supplement].flatMap
    Array.toList).filter fun span => unclean span.value.here || unclean span.value.next

/-- The code points that cleaning does not leave, and a space. -/
def controls : PointSet :=
  PointSet.ofRanges ((['\x00', '\uFFFD', '\t', '\n', '\r'].map fun c => (c.toNat, c.toNat)) ++
    uncleanSpans.map fun span => (span.first, span.last))

theorem mem_uncleanSpans {point : Nat} {span : Span Category.Turns}
    (h : span ∈ (Category.tableFor point).toList)
    (hunclean : (unclean span.value.here || unclean span.value.next) = true) :
    span ∈ uncleanSpans := by
  refine List.mem_filter.2 ⟨List.mem_flatMap.2 ⟨Category.tableFor point, ?_, h⟩, hunclean⟩
  rw [Category.tableFor]
  repeat' split
  all_goals simp only [List.mem_cons, true_or, or_true]

theorem unclean_category (h : controls.contains c.toNat = false) :
    unclean (category c) = false := by
  rw [category, Category.ofPoint]
  split
  · rfl
  · next span hfind =>
    rcases Span.mem_of_find? hfind with ⟨hmem, hcovers⟩
    rw [← Bool.not_eq_true]
    -- The span would have put the code point into the set, whichever of its two categories it is.
    intro hunclean
    have hspan : span ∈ uncleanSpans := by
      apply mem_uncleanSpans hmem
      rw [Category.Turns.at] at hunclean
      rw [Bool.or_eq_true]
      split at hunclean
      · exact Or.inl hunclean
      · exact Or.inr hunclean
    have hrange : (span.first, span.last) ∈ uncleanSpans.map fun span => (span.first, span.last) :=
      List.mem_map_of_mem hspan
    rw [controls, PointSet.contains_ofRanges.2 ⟨_, List.mem_append_right _ hrange, hcovers⟩] at h
    cases h

/-- Cleaning leaves all other characters. -/
theorem cleanChar_of_controls (h : controls.contains c.toNat = false) : cleanChar c = some c := by
  have hnull : c ≠ '\x00' := PointSet.ne_of_contains h (by decide +kernel)
  have hreplaced : c ≠ '\uFFFD' := PointSet.ne_of_contains h (by decide +kernel)
  have htab : c ≠ '\t' := PointSet.ne_of_contains h (by decide +kernel)
  have hfeed : c ≠ '\n' := PointSet.ne_of_contains h (by decide +kernel)
  have hreturn : c ≠ '\r' := PointSet.ne_of_contains h (by decide +kernel)
  have hcategory := unclean_category h
  rw [cleanChar]
  simp only [hnull, hreplaced, htab, hfeed, hreturn, decide_false, Bool.or_self,
    Bool.false_eq_true, if_false]
  split
  · next hzs => rw [hzs] at hcategory; cases hcategory
  · next hcc => rw [hcc] at hcategory; cases hcategory
  · next hcf => rw [hcf] at hcategory; cases hcategory
  · rfl

/-- The parts of a clean character are clean. -/
theorem cleanChar_of_mem_decomposeChar (hc : cleanChar c = some c) (h : d ∈ decomposeChar c) :
    cleanChar d = some d := by
  rcases decomposeChar_cases c with hself | hparts
  · rw [hself, List.mem_singleton] at h
    rwa [h]
  · -- An entry has blanks among its parts only if it is about a blank itself.
    apply cleanChar_of_controls
    apply (hparts d h).avoids fun point => cleanChar (Char.ofNat point) != some (Char.ofNat point)
    · decide +kernel
    · decide +kernel
    · rw [Char.ofNat_toNat, hc, bne_self_eq_false]

/-- Lower case of a clean character is clean. -/
theorem cleanChar_of_mem_lowerAt (hc : cleanChar c = some c) {afterCased : Bool}
    {rest : List Char} (h : d ∈ lowerAt afterCased c rest) : cleanChar d = some d := by
  rcases isLower_or_lowered c with hlower | hall
  · rw [hlower, List.mem_singleton] at h
    rw [h]
    exact hc
  · have hlowered : (Case.lowered.all fun point => !controls.contains point) = true := by
      decide +kernel
    apply cleanChar_of_controls
    rw [← Bool.not_eq_true']
    exact List.all_eq_true.1 hlowered _ (hall _ _ d h)

/-! ## Characters that are left as they are -/

/-- A character that every step leaves as it is. -/
structure Normal (w : WordPiece) (lowercase : Bool) (c : Char) : Prop where
  clean : w.cleanText = true → cleanChar c = some c
  lower : lowercase = true → IsLower c
  whole : w.stripAccents.getD lowercase = true → decomposeChar c = [c]
  kept : w.stripAccents.getD lowercase = true → isNonspacingMark c = false

/-- A text that has been cleaned and put in lower case, as options say. -/
def unstripped (w : WordPiece) (lowercase : Bool) (s : List Char) : List Char :=
  let s := if w.cleanText then WordPiece.clean s else s
  if lowercase then Text.lower s else s

theorem normalize_eq (w : WordPiece) (lowercase : Bool) (s : List Char) :
    w.normalize lowercase s = if w.stripAccents.getD lowercase then
      Text.stripAccents (w.unstripped lowercase s) else w.unstripped lowercase s :=
  rfl

theorem normal_space (w : WordPiece) (lowercase : Bool) : w.Normal lowercase ' ' where
  clean _ := cleanChar_space
  lower _ := isLower_of_capitals (by decide +kernel)
  whole _ := by decide +kernel
  kept _ := by decide +kernel

theorem mem_stripAccents (h : d ∈ Text.stripAccents s) :
    isNonspacingMark d = false ∧ ∃ c ∈ s, d ∈ decomposeChar c := by
  rcases List.mem_filter.1 h with ⟨hmem, hkept⟩
  rw [Bool.not_eq_true'] at hkept
  exact ⟨hkept, List.mem_flatMap.1 ((orderMarks_perm _).mem_iff.1 hmem)⟩

/-- Before accents are dropped, the characters are clean and in lower case. -/
theorem mem_unstripped (h : c ∈ w.unstripped lowercase s) :
    (w.cleanText = true → cleanChar c = some c) ∧ (lowercase = true → IsLower c) := by
  have hclean : ∀ c ∈ if w.cleanText then WordPiece.clean s else s,
      w.cleanText = true → cleanChar c = some c := by
    intro c hc hclean
    rw [if_pos hclean] at hc
    rcases List.mem_filterMap.1 hc with ⟨d, _, hd⟩
    exact cleanChar_fixed hd
  rw [unstripped] at h
  -- Lower case comes second, and what it makes of clean characters is clean.
  split at h
  · refine ⟨fun hoption => ?_, fun _ => isLower_of_mem_lower h⟩
    rcases mem_lower h with ⟨d, hd, _, _, hat⟩
    exact cleanChar_of_mem_lowerAt (hclean d hd hoption) hat
  · next hcase => exact ⟨hclean c h, fun hlower => absurd hlower hcase⟩

/-- The characters of a normalised text are left as they are. -/
theorem normal_of_mem_normalize (h : c ∈ w.normalize lowercase s) : w.Normal lowercase c := by
  rw [normalize_eq] at h
  split at h
  · rcases mem_stripAccents h with ⟨hkept, d, hd, hpart⟩
    rcases mem_unstripped hd with ⟨hclean, hlower⟩
    exact
      { clean := fun hoption => cleanChar_of_mem_decomposeChar (hclean hoption) hpart
        lower := fun hoption => isLower_of_mem_decomposeChar (hlower hoption) hpart
        whole := fun _ => decomposeChar_of_mem hpart
        kept := fun _ => hkept }
  · next hstrip =>
    rcases mem_unstripped h with ⟨hclean, hlower⟩
    exact ⟨hclean, hlower, fun hoption => absurd hoption hstrip,
      fun hoption => absurd hoption hstrip⟩

/-! ## Texts of such characters -/

theorem unstripped_of_normal (h : ∀ c ∈ s, w.Normal lowercase c) :
    w.unstripped lowercase s = s := by
  have hclean : (if w.cleanText then WordPiece.clean s else s) = s := by
    split
    · next hoption => exact clean_eq_self fun c hc => (h c hc).clean hoption
    · rfl
  rw [unstripped, hclean]
  split
  · next hoption => exact lower_eq_self fun c hc => (h c hc).lower hoption
  · rfl

/-- A text of such characters has its marks put in order, if accents are dropped, and is left
    as it is otherwise. -/
theorem normalize_of_normal (h : ∀ c ∈ s, w.Normal lowercase c) : w.normalize lowercase s
    = if w.stripAccents.getD lowercase then orderMarks s else s := by
  rw [normalize_eq, unstripped_of_normal h]
  split
  · next hoption =>
    rw [Text.stripAccents, decompose,
      flatMap_decomposeChar_eq_self fun c hc => (h c hc).whole hoption, List.filter_eq_self]
    intro c hc
    rw [(h c ((orderMarks_perm s).mem_iff.1 hc)).kept hoption]
    rfl
  · rfl

/-- The texts that are left alone are those whose marks are in order. -/
theorem normalize_eq_self_iff (h : ∀ c ∈ s, w.Normal lowercase c) :
    w.normalize lowercase s = s ↔ (w.stripAccents.getD lowercase = true → InOrder s) := by
  rw [normalize_of_normal h]
  split
  · next hoption => rw [orderMarks_eq_self_iff, forall_prop_of_true hoption]
  · next hoption => exact iff_of_true rfl fun hstrip => absurd hstrip hoption

/-- A second pass puts the marks in order, if accents are dropped, and does nothing otherwise. -/
theorem normalize_normalize (w : WordPiece) (lowercase : Bool) (s : List Char) :
    w.normalize lowercase (w.normalize lowercase s)
      = if w.stripAccents.getD lowercase then orderMarks (w.normalize lowercase s)
        else w.normalize lowercase s :=
  normalize_of_normal fun _ => normal_of_mem_normalize

/-- A third pass does nothing. -/
theorem normalize_third (w : WordPiece) (lowercase : Bool) (s : List Char) :
    w.normalize lowercase (w.normalize lowercase (w.normalize lowercase s))
      = w.normalize lowercase (w.normalize lowercase s) := by
  rw [normalize_eq_self_iff fun _ => normal_of_mem_normalize]
  intro hstrip
  rw [normalize_normalize, if_pos hstrip]
  exact inOrder_orderMarks _

/-- If no mark of class zero is dropped, the marks of a normalised text are in order. -/
theorem inOrder_normalize (hstrip : w.stripAccents.getD lowercase = true)
    (h : ∀ c ∈ decompose (w.unstripped lowercase s), isNonspacingMark c = true →
      Decomposition.rank c ≠ 0) : InOrder (w.normalize lowercase s) := by
  rw [normalize_eq, if_pos hstrip, Text.stripAccents]
  apply (inOrder_orderMarks _).filter
  intro c hc hdropped
  rw [Bool.not_eq_false'] at hdropped
  exact h c hc hdropped

end WordPiece

end Subword
