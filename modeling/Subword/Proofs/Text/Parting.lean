import Mathlib.Data.List.TakeWhile
import Subword.Text.Case
import Subword.Text.Decomposition

/-!
# Texts that a character parts

A change of texts that goes character by character treats what is in front of a
character and what is behind it each on its own. Two changes look further. Lower
case asks what is around a capital sigma, and the canonical decomposition moves
marks past each other. Both come to a halt at a character that counts and is not
cased, and that no mark moves past. A space is such a character.

Both are walks with something in hand: whether the last character was cased, or
the marks that wait. The statements about them leave that open, so that they
hold wherever the walk has come to.

## Main definitions

* `Text.PartsAt`: Whether a change of texts treats both sides of a character on
  their own.

## Theorems

* `Text.PartsAt.comp`: One change after another.
* `Text.partsAt_lower`: What parts a text that is put in lower case.
* `Text.partsAt_decompose`: What parts a text that is decomposed.
* `Text.lower_partsAt_space`, `Text.stripAccents_partsAt_space`: A space does.
-/

namespace Subword

namespace Text

variable {c : Char} {s front back : List Char}

/-- Whether a change of texts leaves a character, and treats what is in front of it and what is
    behind it each on its own. -/
def PartsAt (c : Char) (f : List Char → List Char) : Prop :=
  ∀ front back, f (front ++ c :: back) = f front ++ c :: f back

namespace PartsAt

variable {f g : List Char → List Char}

theorem comp (hg : PartsAt c g) (hf : PartsAt c f) : PartsAt c fun s => g (f s) := by
  intro front back
  dsimp only
  rw [hf, hg]

/-- A change that is only made if it is asked for. -/
theorem ite (hf : PartsAt c f) (b : Bool) : PartsAt c fun s => if b then f s else s := by
  cases b with
  | false => exact fun _ _ => rfl
  | true => exact hf

theorem filterMap {f : Char → Option Char} (h : f c = some c) : PartsAt c (List.filterMap f) := by
  intro front back
  rw [List.filterMap_append, List.filterMap_cons_some h]

theorem flatMap {f : Char → List Char} (h : f c = [c]) : PartsAt c (List.flatMap f) := by
  intro front back
  rw [List.flatMap_append, List.flatMap_cons, h, List.singleton_append]

theorem filter {p : Char → Bool} (h : p c = true) : PartsAt c (List.filter p) := by
  intro front back
  rw [List.filter_append, List.filter_cons_of_pos h]

end PartsAt

/-! ## Texts with a character between them -/

/-- The texts behind the first one each have the character in front. -/
theorem intercalate_cons (c : Char) (part : List Char) (more : List (List Char)) :
    [c].intercalate (part :: more) = part ++ more.flatMap (c :: ·) := by
  induction more generalizing part with
  | nil => rw [List.intercalate_singleton, List.flatMap_nil, List.append_nil]
  | cons next more ih =>
    rw [List.intercalate_cons_cons, ih, List.flatMap_cons, List.append_assoc,
      List.singleton_append, List.cons_append]

theorem intercalate_ofList (parts : List (List Char)) :
    " ".intercalate (parts.map String.ofList) = String.ofList ([' '].intercalate parts) := by
  have hparts : (parts.map String.ofList).map String.toList = parts := by
    rw [List.map_map]
    exact List.map_id'' (fun _ => String.toList_ofList) parts
  have hspace : " ".toList = [' '] := rfl
  rw [← String.toList_inj, String.toList_intercalate, hparts, hspace, String.toList_ofList]

/-- With the character behind each of the texts, what is stripped at the end is the last one. -/
theorem dropWhile_reverse_flatMap {parts : List (List Char)} (hne : ∀ part ∈ parts, part ≠ [])
    (hc : ∀ part ∈ parts, c ∉ part) :
    ((parts.flatMap fun part => part ++ [c]).reverse.dropWhile (· = c)).reverse
      = [c].intercalate parts := by
  rw [List.reverse_eq_iff]
  induction parts with
  | nil => rfl
  | cons part more ih =>
    have hmore := ih (fun other hother => hne other (List.mem_cons_of_mem part hother))
      fun other hother => hc other (List.mem_cons_of_mem part hother)
    rw [List.flatMap_cons, List.reverse_append, List.dropWhile_append, hmore]
    cases more with
    | nil =>
      -- Nothing is behind this text but the one character.
      have hstop : part.reverse.dropWhile (· = c) = part.reverse := by
        rw [List.dropWhile_eq_self_iff]
        intro hpos hlast
        have hmem : part.reverse[0] ∈ part := List.mem_reverse.1 (List.getElem_mem hpos)
        rw [of_decide_eq_true hlast] at hmem
        exact hc part List.mem_cons_self hmem
      rw [List.intercalate_nil, List.reverse_nil, List.isEmpty_nil, if_pos rfl,
        List.reverse_append, List.reverse_singleton, List.singleton_append,
        List.dropWhile_cons_of_pos, hstop, List.intercalate_singleton]
      exact decide_eq_true rfl
    | cons next more =>
      have hsome : ([c].intercalate (next :: more)).reverse.isEmpty = false := by
        rw [intercalate_cons, List.isEmpty_eq_false_iff, Ne, List.reverse_eq_nil_iff,
          List.append_eq_nil_iff, not_and]
        exact fun hnil => absurd hnil (hne next (List.mem_cons_of_mem part List.mem_cons_self))
      rw [hsome, if_neg Bool.false_ne_true, List.intercalate_cons_cons]
      simp only [List.reverse_append, List.append_assoc]

/-- A change that a character parts is made to each of the texts. -/
theorem PartsAt.intercalate {f : List Char → List Char} (h : PartsAt c f) (hnil : f [] = [])
    (parts : List (List Char)) : f ([c].intercalate parts) = [c].intercalate (parts.map f) := by
  induction parts with
  | nil => exact hnil
  | cons part more ih =>
    cases more with
    | nil =>
      rw [List.intercalate_singleton, List.map_cons, List.map_nil, List.intercalate_singleton]
    | cons next more =>
      rw [List.intercalate_cons_cons, List.append_assoc, List.singleton_append, h, ih]
      simp only [List.map_cons, List.intercalate_cons_cons, List.append_assoc,
        List.singleton_append]

/-! ## Lower case -/

/-- What is done stays in front. -/
theorem lowerOnto_eq (s : List Char) : ∀ (done : List Char) (afterCased : Bool),
    lowerOnto done afterCased s = done.reverse ++ lowerOnto [] afterCased s := by
  induction s with
  | nil =>
    intro done afterCased
    rw [lowerOnto, lowerOnto, List.reverse_nil, List.append_nil]
  | cons d rest ih =>
    intro done afterCased
    rw [lowerOnto, lowerOnto, ih, ih (List.reverseAux _ [])]
    simp only [List.reverseAux_eq, List.reverse_append, List.reverse_reverse, List.append_nil,
      List.append_assoc]

/-- A character that counts and is not cased hides what is behind it. -/
theorem startsCased_append (hcounts : isTransparent c = false) (hcase : isCased c = false)
    (s back : List Char) : startsCased (s ++ c :: back) = startsCased s := by
  have hcut : (c :: back).dropWhile isTransparent = c :: back :=
    List.dropWhile_cons_of_neg (by rw [hcounts]; exact Bool.false_ne_true)
  rw [startsCased, startsCased, List.dropWhile_append]
  cases hrest : s.dropWhile isTransparent with
  | nil =>
    -- Everything in front of the character is looked through, and then it is not cased.
    rw [List.isEmpty_nil, if_pos rfl, hcut]
    exact hcase
  | cons d rest => rfl

/-- Such a character leaves nothing in hand, so what is behind it begins anew. -/
theorem lowerOnto_append (hcounts : isTransparent c = false) (hcase : isCased c = false)
    (hlower : ∀ afterCased rest, lowerAt afterCased c rest = [c]) (front back : List Char) :
    ∀ (done : List Char) (afterCased : Bool), lowerOnto done afterCased (front ++ c :: back)
      = lowerOnto done afterCased front ++ c :: lower back := by
  induction front with
  | nil =>
    intro done afterCased
    rw [List.nil_append, lowerOnto, lowerOnto, hlower, hcounts, hcase, if_neg Bool.false_ne_true,
      lowerOnto_eq, lower]
    simp only [List.reverseAux_cons, List.reverseAux_nil, List.reverse_cons, List.append_assoc,
      List.singleton_append]
  | cons d front ih =>
    intro done afterCased
    -- A sigma asks what follows it, and the character answers as the end of the text would.
    have hat : lowerAt afterCased d (front ++ c :: back) = lowerAt afterCased d front := by
      rw [lowerAt, lowerAt, startsCased_append hcounts hcase]
    rw [List.cons_append, lowerOnto, lowerOnto, hat, ih]

/-- A character that counts, is not cased and has no other lower case parts a text that is put in
    lower case. -/
theorem partsAt_lower (hcounts : isTransparent c = false) (hcase : isCased c = false)
    (hlower : ∀ afterCased rest, lowerAt afterCased c rest = [c]) : PartsAt c lower :=
  fun front back => lowerOnto_append hcounts hcase hlower front back [] false

/-! ## Decomposition -/

namespace Decomposition

/-- What is done stays in front, and the marks that wait stay behind it. -/
theorem orderOnto_eq (s : List Char) : ∀ done waiting : List Char,
    orderOnto done waiting s = done.reverse ++ orderOnto [] waiting s := by
  induction s with
  | nil =>
    intro done waiting
    rw [orderOnto, orderOnto, List.reverse_append, List.append_nil]
  | cons d rest ih =>
    intro done waiting
    rw [orderOnto, orderOnto]
    split
    · rw [ih, ih (d :: (waiting ++ []))]
      simp only [List.reverse_cons, List.reverse_append, List.append_nil, List.append_assoc]
    · rw [ih]

/-- A character of class zero lets no mark wait, so what is behind it begins anew. -/
theorem orderOnto_append (hrank : rank c = 0) (front back : List Char) :
    ∀ done waiting : List Char, orderOnto done waiting (front ++ c :: back)
      = orderOnto done waiting front ++ c :: orderOnto [] [] back := by
  induction front with
  | nil =>
    intro done waiting
    rw [List.nil_append, orderOnto, orderOnto, if_pos hrank, orderOnto_eq, List.reverse_cons,
      List.append_assoc, List.singleton_append]
  | cons d front ih =>
    intro done waiting
    rw [List.cons_append, orderOnto, orderOnto]
    split
    · rw [ih]
    · rw [ih]

end Decomposition

/-- A character of class zero that is not taken apart parts a text that is decomposed. -/
theorem partsAt_decompose (hself : decomposeChar c = [c]) (hrank : Decomposition.rank c = 0) :
    PartsAt c decompose := by
  have horder : PartsAt c orderMarks :=
    fun front back => Decomposition.orderOnto_append hrank front back [] []
  exact horder.comp (PartsAt.flatMap hself)

/-! ## Spaces -/

/-- A space parts a text that is put in lower case. -/
theorem lower_partsAt_space : PartsAt ' ' lower := by
  have hcounts : isTransparent ' ' = false := by decide +kernel
  have hcase : isCased ' ' = false := by decide +kernel
  have hlower : lowerChar ' ' = [' '] := by decide +kernel
  apply partsAt_lower hcounts hcase
  intro afterCased rest
  rw [lowerAt, if_neg (by decide), hlower]

/-- A space parts a text whose accents are dropped. -/
theorem stripAccents_partsAt_space : PartsAt ' ' stripAccents := by
  have hkept : (!isNonspacingMark ' ') = true := by decide +kernel
  have hself : decomposeChar ' ' = [' '] := by decide +kernel
  have hrank : Decomposition.rank ' ' = 0 := by decide +kernel
  have hfilter : PartsAt ' ' (List.filter fun c => !isNonspacingMark c) := PartsAt.filter hkept
  exact hfilter.comp (partsAt_decompose hself hrank)

end Text

end Subword
