import Subword.Proofs.Merges

/-!
# Rules that were written down

A pair of symbols can be written as a line of a file, as a text in a document or
as a list of two in a document. The two symbols of a line and of a text are told
apart by the only space between them, so a pair is written in one way and read in
one way.

The entries of a document come back as they were written, in either form. The
lines of a file come back but for some: a line counts as blank when all its
characters are, and there are more blank characters than the space that stands
between the symbols. A pair of two symbols that consist of such characters is
passed over, and every pair behind it has a lower rank than in a document.

## Main definitions

* `MergeRules.Writable`: A symbol that can be written on a line.
* `MergeRules.written`: A pair as it is written.
* `MergeRules.isBlankPair`: A pair that is taken for a blank line.

## Theorems

* `Text.prefix_trimLineEnds`: What is in front of the line ends is not trimmed.
* `MergeRules.twoParts?_written`: A pair that was written is found again.
* `MergeRules.pairsOfEntries_written`: The entries of a document come back.
* `MergeRules.pairsOfLines_written`: So do the lines of a file, unless they are blank.
* `MergeRules.ofLines_written`: The three sources compared.
* `MergeRules.ofLines_drops`: A pair of blank symbols is lost from a file.
-/

namespace Subword

/-- Characters that end no line are not trimmed, whatever stands behind them. -/
theorem Text.prefix_trimLineEnds {s : List Char} (h : ∀ c ∈ s, isLineEnd c = false)
    (rest : List Char) : s <+: trimLineEnds (s ++ rest) := by
  unfold trimLineEnds
  rw [List.reverse_append, List.dropWhile_append]
  by_cases hrest : (rest.reverse.dropWhile isLineEnd).isEmpty
  · -- All of the rest is trimmed, and then nothing more.
    rw [if_pos hrest]
    have hkept : s.reverse.dropWhile isLineEnd = s.reverse := by
      cases hs : s.reverse with
      | nil => rfl
      | cons c before =>
        have hc : isLineEnd c = false := h c (by rw [← List.mem_reverse, hs]; exact .head before)
        rw [List.dropWhile_cons, if_neg (by simp only [hc, Bool.false_eq_true, not_false_eq_true])]
    exact ⟨[], by rw [hkept, List.reverse_reverse, List.append_nil]⟩
  · rw [if_neg hrest, List.reverse_append, List.reverse_reverse]
    exact List.prefix_append s _

namespace MergeRules

/-- A symbol that can be written on a line beside another one. -/
structure Writable (symbol : String) : Prop where
  ne_empty : symbol ≠ ""
  space : ' ' ∉ symbol.toList
  carriageReturn : '\r' ∉ symbol.toList
  lineFeed : '\n' ∉ symbol.toList

/-- A pair as it is written, with a space between its symbols. -/
def written (pair : String × String) : String := pair.1 ++ " " ++ pair.2

/-- Whether both symbols of a pair consist of blank characters. -/
def isBlankPair (pair : String × String) : Bool :=
  pair.1.toList.all Text.isBlank && pair.2.toList.all Text.isBlank

theorem toList_written (pair : String × String) :
    (written pair).toList = pair.1.toList ++ ' ' :: pair.2.toList := by
  simp only [written, String.toList_append, List.append_assoc]
  rfl

theorem Writable.toList_ne_nil {symbol : String} (h : Writable symbol) : symbol.toList ≠ [] :=
  fun hnil => h.ne_empty (String.toList_eq_nil_iff.1 hnil)

theorem Writable.isLineEnd {symbol : String} (h : Writable symbol) {c : Char}
    (hc : c ∈ symbol.toList) : Text.isLineEnd c = false := by
  have hreturn : c ≠ '\r' := fun heq => h.carriageReturn (heq ▸ hc)
  have hfeed : c ≠ '\n' := fun heq => h.lineFeed (heq ▸ hc)
  simp only [Text.isLineEnd, hreturn, hfeed, decide_false, Bool.or_self]

variable {pair : String × String}

/-- A pair that was written is found again, since there is one space in what was written. -/
theorem twoParts?_written (hleft : Writable pair.1) (hright : Writable pair.2) :
    twoParts? (written pair).toList = some pair := by
  have hfront : ∀ c ∈ pair.1.toList, decide (c ≠ ' ') = true := by
    intro c hc
    exact decide_eq_true fun heq => hleft.space (heq ▸ hc)
  have hback : pair.2.toList.contains ' ' = false := by
    simpa only [List.contains_eq_mem, decide_eq_false_iff_not] using hright.space
  unfold twoParts?
  rw [toList_written, List.takeWhile_append_of_pos hfront, List.dropWhile_append_of_pos hfront]
  simp only [List.takeWhile_cons, List.dropWhile_cons, ne_eq, not_true_eq_false, decide_false,
    Bool.false_eq_true, if_false, List.append_nil, List.drop_succ_cons, List.drop_zero,
    List.isEmpty_eq_false_iff.2 hleft.toList_ne_nil,
    List.isEmpty_eq_false_iff.2 hright.toList_ne_nil, hback, Bool.or_self, String.ofList_toList]

/-- Of the line of a pair nothing but line ends is trimmed. -/
theorem trimLineEnds_written (hright : Writable pair.2) {ending : String}
    (hending : ∀ c ∈ ending.toList, Text.isLineEnd c = true) :
    Text.trimLineEnds (written pair ++ ending).toList = (written pair).toList := by
  rw [String.toList_append]
  refine Text.trimLineEnds_append hending ?_
  intro c hc
  -- The last character of a line is in its second symbol, which is not empty.
  have hlast : pair.2.toList.getLast? = some c := by
    rw [toList_written, List.getLast?_append, List.getLast?_cons] at hc
    cases hsecond : pair.2.toList.getLast? with
    | none => exact absurd (List.getLast?_eq_none_iff.1 hsecond) hright.toList_ne_nil
    | some d =>
      rw [hsecond] at hc
      exact hc
  exact hright.isLineEnd (List.mem_of_getLast? hlast)

/-- From the second line on, a line is passed over when all its characters are blank. -/
theorem isSkipped_written {number : Nat} (h : 1 < number) (pair : String × String) :
    isSkipped number (written pair).toList = isBlankPair pair := by
  have hspace : Text.isBlank ' ' = true := by decide
  have hfirst : number ≠ 1 := by omega
  simp only [isSkipped, isBlankPair, toList_written, List.all_append, List.all_cons, hspace, hfirst,
    decide_false, Bool.true_and, Bool.false_and, Bool.or_false]

/-- The entries of a document are the pairs that were written, in whichever form. -/
theorem pairsOfEntries_written {form : String × String → Json} {pairs : List (String × String)}
    (h : ∀ index, ∀ pair ∈ pairs, pairOfEntry index (form pair) = .ok pair) :
    ∀ index done, pairsOfEntries index done (pairs.map form) = .ok (done.reverse ++ pairs) := by
  induction pairs with
  | nil =>
    intro index done
    rw [List.append_nil]
    rfl
  | cons pair rest ih =>
    intro index done
    have hrest := ih fun index other hother => h index other (List.mem_cons_of_mem pair hother)
    rw [List.map_cons, pairsOfEntries, h index pair List.mem_cons_self]
    simp only [hrest, List.reverse_cons, List.append_assoc, List.singleton_append]

/-- The lines of a file behind the first are the pairs that were written and are not blank. -/
theorem pairsOfLines_written {pairs : List (String × String)} {ending : String}
    (hsymbols : ∀ pair ∈ pairs, Writable pair.1 ∧ Writable pair.2)
    (hending : ∀ c ∈ ending.toList, Text.isLineEnd c = true) :
    ∀ number, 1 < number → ∀ done,
      pairsOfLines number done (pairs.map fun pair => written pair ++ ending)
        = .ok (done.reverse ++ pairs.filter fun pair => !isBlankPair pair) := by
  induction pairs with
  | nil =>
    intro number _ done
    rw [List.filter_nil, List.append_nil]
    rfl
  | cons pair rest ih =>
    intro number hnumber done
    have hpair := hsymbols pair List.mem_cons_self
    have hrest := ih (fun other hother => hsymbols other (List.mem_cons_of_mem pair hother))
      (number + 1) (by omega)
    rw [List.map_cons, pairsOfLines]
    simp only [trimLineEnds_written hpair.2 hending, isSkipped_written hnumber]
    by_cases hblank : isBlankPair pair = true
    · rw [if_pos hblank, hrest, List.filter_cons_of_neg (by simp [hblank])]
    · rw [if_neg hblank, twoParts?_written hpair.1 hpair.2,
        List.filter_cons_of_pos (by simpa using hblank)]
      simp only [hrest, List.reverse_cons, List.append_assoc, List.singleton_append]

/-- A first line that names a version is passed over. -/
theorem pairsOfLines_version (rest : String) (lines : List String) :
    pairsOfLines 1 [] (("#version" ++ rest) :: lines) = pairsOfLines 2 [] lines := by
  have hall : ("#version".toList.all fun c => !Text.isLineEnd c) = true := by decide
  have hends : ∀ c ∈ "#version".toList, Text.isLineEnd c = false := by
    intro c hc
    exact Bool.not_eq_eq_eq_not.1 (List.all_eq_true.1 hall c hc)
  have hversion : "#version".toList.isPrefixOf
      (Text.trimLineEnds ("#version" ++ rest).toList) = true := by
    rw [List.isPrefixOf_iff_prefix, String.toList_append]
    exact Text.prefix_trimLineEnds hends rest.toList
  rw [pairsOfLines]
  simp only [isSkipped, hversion, decide_true, Bool.and_self, Bool.or_true, if_true]

/-- Where an entry of a list is among those that are kept: behind those kept in front of it. -/
theorem getElem?_filter_take {α : Type} {p : α → Bool} {list : List α} {i : Nat} {a : α}
    (hi : list[i]? = some a) (ha : p a = true) :
    (list.filter p)[((list.take i).filter p).length]? = some a := by
  rcases List.getElem?_eq_some_iff.1 hi with ⟨hlt, hget⟩
  have hparts : list = list.take i ++ a :: list.drop (i + 1) := by
    rw [← hget, ← List.drop_eq_getElem_cons hlt, List.take_append_drop]
  have hfilter := congrArg (List.filter p) hparts
  rw [List.filter_append, List.filter_cons_of_pos ha] at hfilter
  rw [hfilter, List.getElem?_append_right (Nat.le_refl _), Nat.sub_self, List.getElem?_cons_zero]

/-- Different pairs that were written are the rules of a document in either form, each with its
    position as its rank. As lines behind one that names a version they are rules but for the
    pairs of blank symbols, and a pair has the rank that it has among the others. So the lines are
    the rules of the document exactly when no pair is blank. -/
theorem ofLines_written {pairs : List (String × String)} (version : String) {ending : String}
    (hnodup : pairs.Nodup) (hsymbols : ∀ pair ∈ pairs, Writable pair.1 ∧ Writable pair.2)
    (hending : ∀ c ∈ ending.toList, Text.isLineEnd c = true) :
    ∃ rules kept, ofEntries (pairs.map fun pair => .str (written pair)) = .ok rules ∧
      ofEntries (pairs.map fun pair => .arr [.str pair.1, .str pair.2]) = .ok rules ∧
      rules.toList = pairs ∧
      (∀ i pair, pairs[i]? = some pair → rules.rank? pair.1 pair.2 = some i) ∧
      ofLines (("#version" ++ version) :: pairs.map fun pair => written pair ++ ending)
        = .ok kept ∧
      kept.toList = pairs.filter (fun pair => !isBlankPair pair) ∧
      (∀ i pair, pairs[i]? = some pair → kept.rank? pair.1 pair.2 =
        if isBlankPair pair then none
        else some ((pairs.take i).filter fun other => !isBlankPair other).length) ∧
      (kept = rules ↔ ∀ pair ∈ pairs, isBlankPair pair = false) := by
  have htexts : ∀ index, ∀ pair ∈ pairs,
      pairOfEntry index (.str (written pair)) = .ok pair := by
    intro index pair hmem
    have hpair := hsymbols pair hmem
    rw [pairOfEntry, twoParts?_written hpair.1 hpair.2]
  have hlists : ∀ index, ∀ pair ∈ pairs,
      pairOfEntry index (.arr [.str pair.1, .str pair.2]) = .ok pair := by
    intro index pair hmem
    have hpair := hsymbols pair hmem
    have hleft : pair.1.isEmpty = false := by simpa using hpair.1.ne_empty
    have hright : pair.2.isEmpty = false := by simpa using hpair.2.ne_empty
    rw [pairOfEntry, hleft, hright]
    rfl
  rcases exists_ofPairs hnodup with ⟨rules, hrules, hall⟩
  rcases exists_ofPairs (hnodup.filter fun pair => !isBlankPair pair) with ⟨kept, hkept, hsome⟩
  refine ⟨rules, kept, ?_, ?_, hall, ?_, ?_, hsome, ?_, ?_⟩
  · rw [ofEntries, pairsOfEntries_written htexts]
    exact hrules
  · rw [ofEntries, pairsOfEntries_written hlists]
    exact hrules
  · intro i pair hi
    rw [rank?_eq_some_iff, hall]
    exact hi
  · rw [ofLines, pairsOfLines_version, pairsOfLines_written hsymbols hending 2 (by omega)]
    exact hkept
  · intro i pair hi
    by_cases hblank : isBlankPair pair = true
    · -- A pair that is passed over has no rank.
      rw [if_pos hblank]
      apply rank?_eq_none
      rw [hsome, List.mem_filter]
      simp [hblank]
    · rw [if_neg hblank, rank?_eq_some_iff, hsome]
      exact getElem?_filter_take hi (by simpa using hblank)
  · have hfilter : kept.toList = pairs ↔ ∀ pair ∈ pairs, isBlankPair pair = false := by
      rw [hsome, List.filter_eq_self]
      simp only [Bool.not_eq_true']
    rw [← hfilter]
    constructor
    · rintro rfl
      exact hall
    · intro hsame
      rw [← hsome, hsame, hrules, Except.ok.injEq] at hkept
      exact hkept.symm

/-! ## Ideographic spaces -/

/-- Three pairs, of which the first and the last have a symbol that is blank. -/
def spacedPairs : List (String × String) := [("\u3000", "a"), ("a", "b"), ("\u3000a", "\u00a0")]

theorem writable_spacedPairs : ∀ pair ∈ spacedPairs, Writable pair.1 ∧ Writable pair.2 := by
  have hsymbols : ∀ symbol ∈ ["\u3000", "a", "b", "\u3000a", "\u00a0"], Writable symbol := by
    intro symbol hmem
    simp only [List.mem_cons, List.not_mem_nil, or_false] at hmem
    rcases hmem with rfl | rfl | rfl | rfl | rfl <;>
      exact ⟨by decide, by decide, by decide, by decide⟩
  intro pair hmem
  simp only [spacedPairs, List.mem_cons, List.not_mem_nil, or_false] at hmem
  rcases hmem with rfl | rfl | rfl
  · exact ⟨hsymbols _ (by decide), hsymbols _ (by decide)⟩
  · exact ⟨hsymbols _ (by decide), hsymbols _ (by decide)⟩
  · exact ⟨hsymbols _ (by decide), hsymbols _ (by decide)⟩

/-- A symbol that is blank does no harm beside one that is not. -/
theorem ofLines_written_of_spaced : ∃ rules kept,
    ofEntries [.str "\u3000 a", .str "a b", .str "\u3000a \u00a0"] = .ok rules ∧
    ofLines ["#version: 0.2\r", "\u3000 a\r", "a b\r", "\u3000a \u00a0\r"] = .ok kept ∧
    rules.toList = spacedPairs ∧ kept = rules ∧ kept.rank? "\u3000a" "\u00a0" = some 2 := by
  have hends : "\r".toList.all Text.isLineEnd = true := by decide
  have hreturn : ∀ c ∈ "\r".toList, Text.isLineEnd c = true := List.all_eq_true.1 hends
  have hnodup : spacedPairs.Nodup := by decide
  rcases ofLines_written ": 0.2\r" hnodup writable_spacedPairs hreturn with
    ⟨rules, kept, htexts, _, hall, hranks, hlines, _, _, hsame⟩
  have hequal : kept = rules := by
    rw [hsame]
    decide
  refine ⟨rules, kept, htexts, hlines, hall, hequal, ?_⟩
  rw [hequal]
  exact hranks 2 _ rfl

/-- A pair of two blank symbols is lost from a file, without an error, and the pair behind it has
    a lower rank than in a document. -/
theorem ofLines_drops : ∃ rules kept,
    ofEntries [.str "\u3000 \u3000", .str "a b"] = .ok rules ∧
    rules.toList = [("\u3000", "\u3000"), ("a", "b")] ∧ rules.rank? "a" "b" = some 1 ∧
    ofLines ["#version: 0.2", "\u3000 \u3000", "a b"] = .ok kept ∧
    kept.toList = [("a", "b")] ∧ kept.rank? "\u3000" "\u3000" = none ∧
    kept.rank? "a" "b" = some 0 := by
  have hboth : [("\u3000", "\u3000"), ("a", "b")].Nodup := by decide
  have hlast : [("a", "b")].Nodup := by decide
  rcases exists_ofPairs hboth with ⟨rules, hrules, hall⟩
  rcases exists_ofPairs hlast with ⟨kept, hkept, hone⟩
  refine ⟨rules, kept, hrules, hall, ?_, hkept, hone, ?_, ?_⟩
  · rw [rank?_eq_some_iff, hall]
    rfl
  · apply rank?_eq_none
    rw [hone]
    decide
  · rw [rank?_eq_some_iff, hone]
    rfl

end MergeRules

end Subword
