import Mathlib.Data.List.Defs
import Subword.Proofs.Merges.Rounds

/-!
# Merging in passes

There is another way to apply merge rules: a pass takes the most urgent rule
that fits somewhere and fuses every pair that it fits, from left to right,
before the next rule is looked for. This comes to the same if the rules are
layered, which means that a rule for a symbol that another rule makes comes
after that rule, as it does where rules were learned one after the other.

A pass is a run of rounds. After its first round, the pairs that the fused
symbol brings up are less urgent than the rule of the pass, so as long as that
rule fits somewhere it stays the most urgent one, and the rounds go from left
to right through the places where the pass fuses. A symbol that takes part in
two pairs goes to the left one either way.

## Main definitions

* `fuseAll`: A row in which two symbols are fused wherever they are neighbours.
* `MergeRules.mostUrgent?`: The most urgent rule that fits in a row.
* `MergeRules.applyInPasses`: A row with the rules applied in passes.
* `MergeRules.Layered`: Rules for made symbols come after the rules that make them.
* `MergeRules.Ahead`: How far a pass has come.

## Theorems

* `MergeRules.settled_of_mostUrgent?`: When no rule fits.
* `MergeRules.exists_rank_of_mostUrgent?`: What is known of the most urgent rule.
* `MergeRules.layered_iff`: Layered rules by their list.
* `MergeRules.Ahead.apply_eq`: What is left of a pass is a run of rounds.
* `MergeRules.apply_eq_applyInPasses`: Rounds and passes come to the same.
-/

namespace Subword

/-- A row in which two symbols are fused wherever they are neighbours, from left to right. -/
def fuseAll (left right : String) : List String → List String
  | a :: b :: rest =>
    if a = left ∧ b = right then (left ++ right) :: fuseAll left right rest
    else a :: fuseAll left right (b :: rest)
  | symbols => symbols

/-- No symbols are added. -/
theorem length_fuseAll_le (left right : String) (symbols : List String) :
    (fuseAll left right symbols).length ≤ symbols.length := by
  induction symbols using fuseAll.induct left right with
  | case1 a b rest h ih =>
    rw [fuseAll, if_pos h, List.length_cons, List.length_cons, List.length_cons]
    omega
  | case2 a b rest h ih =>
    rw [fuseAll, if_neg h, List.length_cons, List.length_cons]
    omega
  | case3 symbols h => rw [fuseAll.eq_2 _ _ _ h]

/-- Where two symbols are neighbours, there are fewer afterwards. -/
theorem length_fuseAll_lt {left right : String} {symbols : List String}
    (hmem : (left, right) ∈ symbols.consecutivePairs) :
    (fuseAll left right symbols).length < symbols.length := by
  induction symbols using fuseAll.induct left right with
  | case1 a b rest h ih =>
    have hle := length_fuseAll_le left right rest
    rw [fuseAll, if_pos h, List.length_cons, List.length_cons, List.length_cons]
    omega
  | case2 a b rest h ih =>
    have hrest : (left, right) ∈ (b :: rest).consecutivePairs := by
      rcases List.mem_cons.1 hmem with heq | hrest
      · rw [Prod.mk.injEq] at heq
        exact absurd ⟨heq.1.symm, heq.2.symm⟩ h
      · exact hrest
    have hlt := ih hrest
    rw [fuseAll, if_neg h, List.length_cons, List.length_cons]
    omega
  | case3 symbols h =>
    rcases symbols with _ | ⟨a, _ | ⟨b, rest⟩⟩
    · cases hmem
    · cases hmem
    · exact absurd rfl (h a b rest)

namespace MergeRules

variable {rules : MergeRules} {symbols : List String} {a b : String} {rank : Nat}

/-! ## The most urgent rule -/

/-- The ranks of the rules that fit in a row. -/
def ranksIn (rules : MergeRules) (symbols : List String) : List Nat :=
  symbols.consecutivePairs.filterMap fun pair => rules.rank? pair.1 pair.2

/-- The most urgent rule that fits in a row. -/
def mostUrgent? (rules : MergeRules) (symbols : List String) : Option (String × String) :=
  (rules.ranksIn symbols).min?.bind fun rank => rules.toList[rank]?

theorem isChain_iff_consecutivePairs {R : String → String → Prop} :
    symbols.IsChain R ↔ ∀ pair ∈ symbols.consecutivePairs, R pair.1 pair.2 := by
  induction symbols with
  | nil => simp
  | cons a rest ih =>
    cases rest with
    | nil => simp [List.consecutivePairs]
    | cons b rest =>
      have hpairs : (a :: b :: rest).consecutivePairs
          = (a, b) :: (b :: rest).consecutivePairs := rfl
      rw [List.isChain_cons_cons, ih, hpairs, List.forall_mem_cons]

theorem mem_ranksIn : rank ∈ rules.ranksIn symbols ↔
    ∃ pair ∈ symbols.consecutivePairs, rules.rank? pair.1 pair.2 = some rank := by
  rw [ranksIn, List.mem_filterMap]

/-- The rule with a rank that is in a row. -/
theorem getElem?_of_mem_ranksIn (h : rank ∈ rules.ranksIn symbols) :
    ∃ pair ∈ symbols.consecutivePairs, rules.toList[rank]? = some pair := by
  rcases mem_ranksIn.1 h with ⟨pair, hpair, hrank⟩
  exact ⟨pair, hpair, rank?_eq_some_iff.1 hrank⟩

/-- If there is no such rule, no rule fits. -/
theorem settled_of_mostUrgent? (h : rules.mostUrgent? symbols = none) : rules.Settled symbols := by
  rw [Settled, isChain_iff_consecutivePairs]
  intro pair hpair
  cases hrank : rules.rank? pair.1 pair.2 with
  | none => rfl
  | some rank =>
    have hmem : rank ∈ rules.ranksIn symbols := mem_ranksIn.2 ⟨pair, hpair, hrank⟩
    -- Where a rule fits there is a least rank, and so a rule that has it.
    cases hmin : (rules.ranksIn symbols).min? with
    | none =>
      rw [List.min?_eq_none_iff] at hmin
      rw [hmin] at hmem
      cases hmem
    | some least =>
      rcases getElem?_of_mem_ranksIn (List.min?_mem hmin) with ⟨rule, _, hrule⟩
      rw [mostUrgent?, hmin, Option.bind_some, hrule] at h
      cases h

/-- The most urgent rule fits somewhere, and no pair of the row is more urgent. -/
theorem exists_rank_of_mostUrgent? (h : rules.mostUrgent? symbols = some (a, b)) :
    (a, b) ∈ symbols.consecutivePairs ∧
      ∃ rank, rules.rank? a b = some rank ∧ symbols.IsChain (rules.Waits rank) := by
  rcases Option.bind_eq_some_iff.1 h with ⟨rank, hmin, hrule⟩
  rcases getElem?_of_mem_ranksIn (List.min?_mem hmin) with ⟨pair, hpair, hget⟩
  rw [hrule, Option.some.injEq] at hget
  refine ⟨hget ▸ hpair, rank, rank?_eq_some_iff.2 hrule, isChain_iff_consecutivePairs.2 ?_⟩
  intro other hother least hleast
  exact (List.min?_eq_some_iff.1 hmin).2 least (mem_ranksIn.2 ⟨other, hother, hleast⟩)

/-- A row of symbols with the rules applied in passes until none fits. -/
def applyInPasses (rules : MergeRules) (symbols : List String) : List String :=
  match _h : rules.mostUrgent? symbols with
  | none => symbols
  | some (left, right) => applyInPasses rules (fuseAll left right symbols)
termination_by symbols.length
decreasing_by exact length_fuseAll_lt (exists_rank_of_mostUrgent? _h).1

theorem applyInPasses_of_none (h : rules.mostUrgent? symbols = none) :
    rules.applyInPasses symbols = symbols := by
  rw [applyInPasses]
  split
  · rfl
  · next hrule =>
    rw [h] at hrule
    cases hrule

theorem applyInPasses_of_some (h : rules.mostUrgent? symbols = some (a, b)) :
    rules.applyInPasses symbols = rules.applyInPasses (fuseAll a b symbols) := by
  rw [applyInPasses]
  split
  · next hrule =>
    rw [h] at hrule
    cases hrule
  · next hrule =>
    rw [h] at hrule
    cases hrule
    rfl

/-! ## Passes as rounds -/

/-- A rule for a symbol that a rule makes comes after the rule that makes it. -/
def Layered (rules : MergeRules) : Prop :=
  ∀ a b c d rank other, rules.rank? a b = some rank → rules.rank? c d = some other →
    a ++ b = c ∨ a ++ b = d → rank < other

/-- What layered rules are can be told from their list: no rule takes a symbol that it makes
    itself or that a later one makes. -/
theorem layered_iff : rules.Layered ↔
    (rules.toList.Pairwise fun p q => q.1 ++ q.2 ≠ p.1 ∧ q.1 ++ q.2 ≠ p.2) ∧
      ∀ p ∈ rules.toList, p.1 ++ p.2 ≠ p.1 ∧ p.1 ++ p.2 ≠ p.2 := by
  have hget : ∀ i (h : i < rules.toList.length),
      rules.rank? rules.toList[i].1 rules.toList[i].2 = some i :=
    fun i h => rank?_eq_some_iff.2 (List.getElem?_eq_getElem h)
  constructor
  · intro h
    rw [List.pairwise_iff_getElem]
    refine ⟨?_, ?_⟩
    · intro i j hi hj hlt
      rw [← not_or]
      intro hmade
      have hafter := h _ _ _ _ _ _ (hget j hj) (hget i hi) hmade
      omega
    · intro p hp
      rcases List.getElem_of_mem hp with ⟨i, hi, rfl⟩
      rw [← not_or]
      intro hmade
      exact Nat.lt_irrefl i (h _ _ _ _ _ _ (hget i hi) (hget i hi) hmade)
  · rintro ⟨hlater, hself⟩ a b c d rank other hrank hother hmade
    rw [rank?_eq_some_iff] at hrank hother
    rcases List.getElem?_eq_some_iff.1 hrank with ⟨hi, hi'⟩
    rcases List.getElem?_eq_some_iff.1 hother with ⟨hj, hj'⟩
    rcases Nat.lt_trichotomy rank other with hlt | rfl | hlt
    · exact hlt
    · rw [hi', Prod.mk.injEq] at hj'
      rcases hj' with ⟨rfl, rfl⟩
      exact absurd hmade (not_or.2 (hself _ (List.mem_of_getElem? hrank)))
    · have hnot := List.pairwise_iff_getElem.1 hlater other rank hj hi hlt
      rw [hi', hj', ← not_or] at hnot
      exact absurd hmade hnot

/-- How far a pass has come: behind what is done already, no pair is more urgent than the rule of
    the pass, and up to there, the next symbol included, none is as urgent. -/
structure Ahead (rules : MergeRules) (rank : Nat) (done rest : List String) : Prop where
  done_waits : (done ++ rest.take 1).IsChain (rules.Waits (rank + 1))
  rest_waits : rest.IsChain (rules.Waits rank)

/-- The symbol that a layered rule makes brings up nothing that is as urgent as the rule. -/
theorem Layered.waits (h : rules.Layered) (hrank : rules.rank? a b = some rank) (other : String) :
    rules.Waits (rank + 1) other (a ++ b) ∧ rules.Waits (rank + 1) (a ++ b) other :=
  ⟨fun _ hother => h _ _ _ _ _ _ hrank hother (Or.inr rfl),
    fun _ hother => h _ _ _ _ _ _ hrank hother (Or.inl rfl)⟩

namespace Ahead

variable {done rest : List String}

/-- A pass goes on behind a fused symbol. -/
theorem fused (hlayered : rules.Layered) (hrank : rules.rank? a b = some rank)
    (h : rules.Ahead rank done (a :: b :: rest)) : rules.Ahead rank (done ++ [a ++ b]) rest := by
  have hdone : done.IsChain (rules.Waits (rank + 1)) := h.done_waits.left_of_append
  refine ⟨?_, h.rest_waits.tail.tail⟩
  rw [List.append_assoc, List.isChain_append]
  refine ⟨hdone, ?_, ?_⟩
  · cases rest with
    | nil => exact List.isChain_singleton _
    | cons x rest =>
      exact List.isChain_cons_cons.2 ⟨(hlayered.waits hrank x).2, List.isChain_singleton x⟩
  · intro x _ y hy
    rw [Option.mem_def, List.singleton_append, List.head?_cons, Option.some.injEq] at hy
    exact hy ▸ (hlayered.waits hrank x).1

/-- A pass goes on behind a symbol that its rule does not fit. -/
theorem passed {x y : String} (hrank : rules.rank? a b = some rank) (hne : ¬(x = a ∧ y = b))
    (h : rules.Ahead rank done (x :: y :: rest)) : rules.Ahead rank (done ++ [x]) (y :: rest) := by
  refine ⟨?_, h.rest_waits.tail⟩
  have hxy : rules.Waits (rank + 1) x y := by
    intro other hother
    have hle := (List.isChain_cons_cons.1 h.rest_waits).1 other hother
    -- Of two pairs with the same rank there is one rule.
    rcases Nat.eq_or_lt_of_le hle with rfl | hlt
    · rw [rank?_eq_some_iff] at hrank hother
      rw [hrank, Option.some.injEq, Prod.mk.injEq] at hother
      exact absurd ⟨hother.1.symm, hother.2.symm⟩ hne
    · exact hlt
  rw [List.append_assoc]
  exact List.isChain_append_cons_cons.2 ⟨h.done_waits, hxy, List.isChain_singleton y⟩

/-- What is left of a pass is a run of rounds. -/
theorem apply_eq (hlayered : rules.Layered) (hrank : rules.rank? a b = some rank) :
    ∀ done, rules.Ahead rank done rest →
      rules.apply (done ++ rest) = rules.apply (done ++ fuseAll a b rest) := by
  -- The induction is on the pass. Where it fuses, a round does the same, since nothing in front
  -- is as urgent; where it goes on, there is nothing to do.
  induction rest using fuseAll.induct a b with
  | case1 x y rest hxy ih =>
    intro done h
    rcases hxy with ⟨rfl, rfl⟩
    have hplace : rules.Place rank done x y rest := ⟨hrank, h.done_waits, h.rest_waits.tail⟩
    have hrest := ih (done ++ [x ++ y]) (h.fused hlayered hrank)
    rw [List.append_assoc, List.append_assoc, List.singleton_append, List.singleton_append] at hrest
    rw [hplace.apply_eq, hrest, fuseAll, if_pos ⟨rfl, rfl⟩]
  | case2 x y rest hxy ih =>
    intro done h
    have hrest := ih (done ++ [x]) (h.passed hrank hxy)
    rw [List.append_assoc, List.append_assoc, List.singleton_append, List.singleton_append] at hrest
    rw [hrest, fuseAll, if_neg hxy]
  | case3 rest hrest =>
    intro done _
    rw [fuseAll.eq_2 _ _ _ hrest]

end Ahead

/-- Applying layered rules in rounds comes to the same as applying them in passes. -/
theorem apply_eq_applyInPasses (h : rules.Layered) (symbols : List String) :
    rules.apply symbols = rules.applyInPasses symbols := by
  induction symbols using applyInPasses.induct rules with
  | case1 symbols hnone =>
    rw [applyInPasses_of_none hnone]
    exact apply_of_none (best?_eq_none_iff.2 (settled_of_mostUrgent? hnone))
  | case2 symbols left right hsome ih =>
    rcases exists_rank_of_mostUrgent? hsome with ⟨_, rank, hrank, hwaits⟩
    have hstart : rules.Ahead rank [] symbols := by
      refine ⟨?_, hwaits⟩
      cases symbols with
      | nil => exact List.isChain_nil
      | cons a rest => exact List.isChain_singleton a
    have hpass := hstart.apply_eq h hrank []
    rw [List.nil_append, List.nil_append] at hpass
    rw [applyInPasses_of_some hsome, ← ih, hpass]

/-- A row of one symbol throughout, and a rule for what is made of two of them. -/
theorem apply_eq_applyInPasses_of_overlap : ∃ rules : MergeRules,
    rules.toList = [("a", "a"), ("aa", "a")] ∧ rules.Layered ∧
    rules.apply ["a", "a", "a", "a", "a"] = ["aa", "aaa"] ∧
    rules.applyInPasses ["a", "a", "a", "a", "a"] = ["aa", "aaa"] := by
  have hpairs : [("a", "a"), ("aa", "a")].Nodup := by decide
  rcases exists_ofPairs hpairs with ⟨rules, _, hrules⟩
  have hlayered : rules.Layered := by
    rw [layered_iff, hrules]
    decide
  have hfirst : rules.best? ["a", "a", "a", "a", "a"] = some (0, 0) := by
    simp [best?, rank?_eq_idxOf?, hrules, List.idxOf?_cons]
  have hsecond : rules.best? ["aa", "a", "a", "a"] = some (0, 1) := by
    simp [best?, rank?_eq_idxOf?, hrules, List.idxOf?_cons]
  have hthird : rules.best? ["aa", "aa", "a"] = some (1, 1) := by
    simp [best?, rank?_eq_idxOf?, hrules, List.idxOf?_cons]
  have hlast : rules.best? ["aa", "aaa"] = none := by
    simp [best?, rank?_eq_idxOf?, hrules, List.idxOf?_cons]
  have happly : rules.apply ["a", "a", "a", "a", "a"] = ["aa", "aaa"] :=
    (apply_of_some hfirst).trans ((apply_of_some hsecond).trans
      ((apply_of_some hthird).trans (apply_of_none hlast)))
  exact ⟨rules, hrules, hlayered, happly, (apply_eq_applyInPasses hlayered _).symm.trans happly⟩

end MergeRules

end Subword
