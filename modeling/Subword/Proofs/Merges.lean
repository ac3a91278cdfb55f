import Subword.Merges
import Subword.Proofs.Vocabulary

/-!
# Applying merge rules

The rank of a pair is its position among the rules. Rules are applied in
rounds, and each round either ends with the row as it is or goes on with one
pair fused, so what a round keeps is kept by them all. Above all, the symbols
of a row spell the same text to the end.

## Theorems

* `MergeRules.rank?_eq_some_iff`, `MergeRules.rank?_eq_idxOf?`: The rank of a pair is its
  position.
* `MergeRules.apply_pair`: What becomes of two symbols that a rule fits.
* `MergeRules.join_apply`: Rules do not change what symbols spell together.
* `MergeRules.exists_ofPairs`: Distinct pairs are rules in their order.
-/

namespace Subword

namespace MergeRules

variable {rules : MergeRules}

/-- The rank of a pair is its position. -/
theorem rank?_eq_some_iff {left right : String} {rank : Nat} :
    rules.rank? left right = some rank ↔ rules.toList[rank]? = some (left, right) := by
  rw [rank?, Numbering.get?_eq_some_iff, Numbering.key?_eq_getElem?, toList]

/-- No pair comes twice, so its position is the first one that it has. -/
theorem rank?_eq_idxOf? (rules : MergeRules) (left right : String) :
    rules.rank? left right = rules.toList.idxOf? (left, right) := by
  ext rank
  rw [rank?_eq_some_iff, List.idxOf?_eq_some_iff, List.getElem?_eq_some_iff]
  refine ⟨?_, fun ⟨hlt, hget, _⟩ => ⟨hlt, hget⟩⟩
  rintro ⟨hlt, hget⟩
  refine ⟨hlt, hget, ?_⟩
  intro other hother heq
  have hsame := (List.getElem_inj rules.pairs.nodup).1 (heq.trans hget.symm)
  omega

theorem rank?_eq_none {left right : String} (h : (left, right) ∉ rules.toList) :
    rules.rank? left right = none :=
  Numbering.index_eq_none h

/-- A row in which no rule fits is left as it is. -/
theorem apply_of_none {symbols : List String} (h : rules.best? symbols = none) :
    rules.apply symbols = symbols := by
  rw [apply]
  split
  · rfl
  · next r p hbest =>
    rw [h] at hbest
    cases hbest

/-- Otherwise the best pair is fused, and the rules are applied again. -/
theorem apply_of_some {symbols : List String} {rank position : Nat}
    (h : rules.best? symbols = some (rank, position)) :
    rules.apply symbols = rules.apply (fuseAt position symbols) := by
  rw [apply]
  split
  · next hbest =>
    rw [h] at hbest
    cases hbest
  · next r p hbest =>
    rw [h] at hbest
    cases hbest
    rfl

theorem apply_singleton (symbol : String) : rules.apply [symbol] = [symbol] :=
  apply_of_none rfl

/-- Two symbols are fused if a rule fits them, and else they are left as they are. -/
theorem apply_pair {a b : String} {rank : Nat} (h : rules.rank? a b = some rank) :
    rules.apply [a, b] = [a ++ b] := by
  have hbest : rules.best? [a, b] = some (rank, 0) := by
    simp only [best?, h]
  exact (apply_of_some hbest).trans (apply_singleton (a ++ b))

theorem apply_pair_of_none {a b : String} (h : rules.rank? a b = none) :
    rules.apply [a, b] = [a, b] := by
  apply apply_of_none
  simp only [best?, h]

/-- Rules do not change what symbols spell together. -/
theorem join_apply (rules : MergeRules) (symbols : List String) :
    String.join (rules.apply symbols) = String.join symbols := by
  -- By the rounds: the last one changes nothing, and every other one fuses a pair.
  induction symbols using MergeRules.apply.induct rules with
  | case1 symbols hbest => rw [apply_of_none hbest]
  | case2 symbols rank position hbest ih => rw [apply_of_some hbest, ih, join_fuseAt]

/-- Distinct pairs are rules in their order. -/
theorem exists_ofPairs {pairs : List (String × String)} (h : pairs.Nodup) :
    ∃ rules, ofPairs pairs = .ok rules ∧ rules.toList = pairs := by
  rcases Numbering.exists_ofList h with ⟨n, hn, hlist⟩
  exact ⟨⟨n⟩, by rw [ofPairs, hn], hlist⟩

end MergeRules

end Subword
