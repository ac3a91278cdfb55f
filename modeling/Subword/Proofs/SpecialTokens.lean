import Subword.Proofs.Text.Cut
import Subword.Proofs.Tokenizer

/-!
# Special tokens in a text

A text is cut at the special tokens that its policy allows, and each of them
stays what it is: it is neither normalised nor segmented, and its id is found
under its own name. What stands between them is segmented as ordinary text,
with special tokens that are not allowed in it as well.

## Theorems

* `Tokenizer.split_allowed`: Where a text is cut.
* `Tokenizer.tokenize_allowed`: The parts of a text, and what becomes of them.
-/

namespace Subword

namespace Tokenizer

variable {S : Type} {t : Tokenizer S} {policy : Option SpecialPolicy} {active : SpecialPolicy}
  {allowed : List (String × Nat)}

/-- A text is cut at the special tokens that its policy allows, if it allows any. -/
theorem split_allowed {s : List Char} (hactive : policy.or t.policy = some active)
    (hallowed : (active.allowed s t.vocabulary.literals).result = .ok allowed)
    (hsome : allowed ≠ []) :
    (t.split policy s).result
      = .ok (Text.cut (allowed.map fun literal => literal.1.toList) s) := by
  have hempty : allowed.isEmpty = false := by
    rw [List.isEmpty_eq_false_iff]
    exact hsome
  unfold split
  rw [hactive]
  dsimp only
  rw [Outcome.result_bind, hallowed]
  dsimp only [Except.bind]
  rw [hempty, if_neg Bool.false_ne_true, Outcome.result_pure]

/-- A text is cut at the leftmost and longest of the special tokens that its policy allows.
    Each of these becomes one token, which has the id of the special token. -/
theorem tokenize_allowed [Score S] (text : String) (options : Option Config)
    (hactive : policy.or t.policy = some active)
    (hallowed : (active.allowed text.toList t.vocabulary.literals).result = .ok allowed)
    (hsome : allowed ≠ []) (hne : ∀ literal ∈ allowed, literal.1 ≠ "") :
    ∃ parts, (t.split policy text.toList).result = .ok parts ∧
      Text.CutAt (allowed.map fun literal => literal.1.toList) text.toList parts ∧
      (t.tokenize text options policy).result
        = .ok (parts.flatMap (t.segmentTokens (options.getD t.config))) ∧
      ∀ l, .literal l ∈ parts → ∃ id, (String.ofList l, id) ∈ allowed ∧
        t.segmentTokens (options.getD t.config) (.literal l) = [String.ofList l] ∧
        t.vocabulary.isSpecial id = true ∧ t.vocabulary.lookup (String.ofList l) = id := by
  have hsplit := split_allowed hactive hallowed hsome
  refine ⟨_, hsplit, Text.cutAt_cut ?_ _, ?_, ?_⟩
  · intro l hl
    rcases List.mem_map.1 hl with ⟨literal, hmem, rfl⟩
    rw [ne_eq, String.toList_eq_nil_iff]
    exact hne literal hmem
  · rw [tokenize, tokenizeWith, Outcome.result_bind, hsplit]
    rfl
  · intro l hl
    rcases List.mem_map.1 (Text.literal_of_mem_cut hl) with ⟨⟨token, id⟩, hmem, rfl⟩
    rcases Vocabulary.mem_literals.1 (SpecialPolicy.mem_of_mem_allowed hallowed hmem) with
      ⟨hspecial, htoken⟩
    dsimp only
    rw [String.ofList_toList]
    refine ⟨id, hmem, ?_, hspecial, Vocabulary.lookup_eq htoken⟩
    rw [segmentTokens, String.ofList_toList]

/-- A special token that begins like another one and contains it. The longer one is cut out,
    and the unknown token, which is not among those that were chosen, is ordinary text. -/
theorem tokenize_allowed_of_overlap : ∃ t : Tokenizer Float,
    t.vocabulary.tokens.toList = ["<unk>", "<a>", "<a>.<b>"] ∧
    ∃ parts, (t.split (some (.only ["<a>", "<a>.<b>"])) "<a>.<b><unk><a>".toList).result
        = .ok parts ∧
      parts = [.literal "<a>.<b>".toList, .plain "<unk>".toList, .literal "<a>".toList] ∧
      Text.CutAt ["<a>".toList, "<a>.<b>".toList] "<a>.<b><unk><a>".toList parts ∧
      t.vocabulary.lookup "<a>.<b>" = 2 := by
  have htokens : ["<unk>", "<a>", "<a>.<b>"].Nodup := by decide
  rcases Vocabulary.exists_ofBounds htokens (by decide) with ⟨v, hv, hspecial, hids⟩
  have hliterals := Vocabulary.literals_of_bounds hids hv
  let t : Tokenizer Float := ⟨v, Config.uncapped true, true, true, none, .bytePair
    { rules := ⟨.empty⟩, pattern := SplitPattern.Named.gpt2.pattern }⟩
  let active : SpecialPolicy := .only ["<a>", "<a>.<b>"]
  have hallowed : (active.allowed "<a>.<b><unk><a>".toList t.vocabulary.literals).result
      = .ok [("<a>", 1), ("<a>.<b>", 2)] := by
    have hfilter : t.vocabulary.literals.filter (fun literal =>
        ["<a>", "<a>.<b>"].contains literal.1) = [("<a>", 1), ("<a>.<b>", 2)] := by
      rw [hliterals]
      decide
    exact congrArg Except.ok hfilter
  have hactive : (some active).or t.policy = some active := rfl
  have hne : ∀ literal ∈ [("<a>", 1), ("<a>.<b>", 2)], literal.1 ≠ "" := by decide
  have hlongest : Text.longestFirst ["<a>".toList, "<a>.<b>".toList]
      = ["<a>.<b>".toList, "<a>".toList] := by
    simp [Text.longestFirst, List.mergeSort, List.MergeSort.Internal.splitInTwo]
  have hcut : Text.cut ["<a>".toList, "<a>.<b>".toList] "<a>.<b><unk><a>".toList
      = [.literal "<a>.<b>".toList, .plain "<unk>".toList, .literal "<a>".toList] := by
    rw [Text.cut, hlongest]
    decide +kernel
  rcases tokenize_allowed "<a>.<b><unk><a>" none hactive hallowed (by decide) hne with
    ⟨parts, hparts, hcutAt, _, hfound⟩
  have hsame := split_allowed hactive hallowed (by decide)
  rw [hparts, Except.ok.injEq] at hsame
  refine ⟨t, hv, parts, hparts, hsame.trans hcut, hcutAt, ?_⟩
  rcases hfound "<a>.<b>".toList (by rw [hsame.trans hcut]; decide) with ⟨id, hid, _, _, hlookup⟩
  rw [String.ofList_toList] at hid hlookup
  rw [hlookup]
  simpa using hid

end Tokenizer

end Subword
