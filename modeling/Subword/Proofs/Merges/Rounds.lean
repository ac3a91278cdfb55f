import Mathlib.Data.List.Chain
import Subword.Proofs.Merges

/-!
# Rounds of merging

Applying merge rules is a run of rounds. What a round does is said once, by the
place that it fuses (`exists_place`): no pair of the row has a more urgent rule
than the one that is fused there, and every pair in front of it has a less
urgent one or none. This asks nothing of the rules. A fused symbol may well
bring up a pair that is more urgent than the ones fused before.

A round makes the row shorter by one, so a run is as long as the row gets
shorter. It ends only where no rule fits, and every symbol that it leaves was
there at the beginning or was made by a rule.

## Main definitions

* `MergeRules.Waits`: A pair that is no more urgent than a rank.
* `MergeRules.Settled`: A row in which no rule fits.
* `MergeRules.Place`: Where a round fuses two symbols.
* `MergeRules.Rounds`: So many rounds lead from one row to another.
* `MergeRules.Makes`: The symbols that rules make.

## Theorems

* `MergeRules.best?_eq_none_iff`: When there is nothing to fuse.
* `MergeRules.exists_place`, `MergeRules.Place.best?_eq`: The place that a round fuses.
* `MergeRules.Rounds.length_eq`: How much shorter the rounds make a row.
* `MergeRules.Rounds.join_eq`: What the symbols spell together stays the same.
* `MergeRules.Rounds.mem`: What the symbols are after some rounds.
* `MergeRules.exists_rounds`: Applying the rules is a run of rounds to the end.
* `MergeRules.mem_apply`: What the symbols are in the end.
* `MergeRules.apply_settles`: What applying the rules comes to.
-/

namespace Subword

/-- Fusing at the position behind some symbols fuses the two that come next. -/
theorem fuseAt_append (front : List String) (a b : String) (back : List String) :
    fuseAt front.length (front ++ a :: b :: back) = front ++ (a ++ b) :: back := by
  induction front with
  | nil => rfl
  | cons x front ih => rw [List.length_cons, List.cons_append, fuseAt, ih, List.cons_append]

namespace MergeRules

variable {rules : MergeRules} {symbols result : List String} {a b : String}
  {rank position count : Nat}

/-- A pair for which there is no rule more urgent than a rank. -/
def Waits (rules : MergeRules) (rank : Nat) (left right : String) : Prop :=
  ∀ other, rules.rank? left right = some other → rank ≤ other

/-- A row in which no rule fits. -/
def Settled (rules : MergeRules) (symbols : List String) : Prop :=
  symbols.IsChain fun left right => rules.rank? left right = none

theorem waits_of_none (h : rules.rank? a b = none) (rank : Nat) : rules.Waits rank a b := by
  intro other hother
  rw [h] at hother
  cases hother

theorem waits_iff (h : rules.rank? a b = some rank) {least : Nat} :
    rules.Waits least a b ↔ least ≤ rank := by
  unfold Waits
  rw [h]
  simp only [Option.some.injEq, forall_eq']

theorem Waits.mono {least : Nat} (h : rules.Waits rank a b) (hle : least ≤ rank) :
    rules.Waits least a b :=
  fun other hother => Nat.le_trans hle (h other hother)

/-! ## The place of a round -/

/-- There is nothing to fuse in the rows in which no rule fits. -/
theorem best?_eq_none_iff : rules.best? symbols = none ↔ rules.Settled symbols := by
  unfold Settled
  induction symbols with
  | nil => simp [best?]
  | cons a rest ih =>
    cases rest with
    | nil => simp [best?]
    | cons b rest =>
      rw [List.isChain_cons_cons, ← ih, best?]
      cases rules.rank? a b <;> cases rules.best? (b :: rest) <;> simp
      split <;> simp

/-- The first pair of a row is fused unless there is a more urgent one behind it. -/
theorem best?_cons_cons_iff {rest : List String} :
    rules.best? (a :: b :: rest) = some (rank, position) ↔
      (rules.rank? a b = some rank ∧ position = 0 ∧
        ∀ best, rules.best? (b :: rest) = some best → rank ≤ best.1) ∨
      ∃ behind, rules.best? (b :: rest) = some (rank, behind) ∧ position = behind + 1 ∧
        rules.Waits (rank + 1) a b := by
  rw [best?]
  cases hrank : rules.rank? a b with
  | none =>
    have hwaits := waits_of_none hrank
    cases rules.best? (b :: rest) with
    | none => simp
    | some best => simp [hwaits, Prod.ext_iff, eq_comm]
  | some first =>
    cases rules.best? (b :: rest) with
    | none => simp [eq_comm]
    | some best =>
      simp only [waits_iff hrank]
      split <;> grind

/-- Where a round fuses two symbols: no pair of the row is more urgent, and no pair in front is
    as urgent. -/
structure Place (rules : MergeRules) (rank : Nat) (front : List String) (a b : String)
    (back : List String) : Prop where
  rank_eq : rules.rank? a b = some rank
  front_waits : (front ++ [a]).IsChain (rules.Waits (rank + 1))
  back_waits : (b :: back).IsChain (rules.Waits rank)

theorem Place.all_wait {front back : List String} (h : rules.Place rank front a b back) :
    (front ++ a :: b :: back).IsChain (rules.Waits rank) := by
  rw [List.isChain_append_cons_cons, waits_iff h.rank_eq]
  refine ⟨?_, Nat.le_refl rank, h.back_waits⟩
  exact h.front_waits.imp fun _ _ hwaits => hwaits.mono (Nat.le_succ rank)

/-- A round fuses the pair that is found at its place. -/
theorem exists_place (h : rules.best? symbols = some (rank, position)) :
    ∃ front a b back, symbols = front ++ a :: b :: back ∧ position = front.length ∧
      rules.Place rank front a b back := by
  induction symbols generalizing rank position with
  | nil => cases h
  | cons a rest ih =>
    cases rest with
    | nil => cases h
    | cons b rest =>
      rcases best?_cons_cons_iff.1 h with ⟨hrank, rfl, hle⟩ | ⟨behind, hbest, rfl, hwaits⟩
      · refine ⟨[], a, b, rest, rfl, rfl, hrank, List.isChain_singleton a, ?_⟩
        -- Behind the first pair nothing is more urgent, whether something fits there or not.
        cases hbest : rules.best? (b :: rest) with
        | none =>
          exact (best?_eq_none_iff.1 hbest).imp fun _ _ hnone => waits_of_none hnone rank
        | some best =>
          rcases ih hbest with ⟨front, c, d, back, heq, _, hplace⟩
          rw [heq]
          exact hplace.all_wait.imp fun _ _ hwaits => hwaits.mono (hle best hbest)
      · rcases ih hbest with ⟨front, c, d, back, heq, hlength, hplace⟩
        refine ⟨a :: front, c, d, back, ?_, ?_, hplace.rank_eq, ?_, hplace.back_waits⟩
        · rw [heq, List.cons_append]
        · rw [hlength, List.length_cons]
        · cases front with
          | nil =>
            rw [List.nil_append, List.cons.injEq] at heq
            rw [← heq.1]
            exact List.isChain_cons_cons.2 ⟨hwaits, List.isChain_singleton b⟩
          | cons x front =>
            rw [List.cons_append, List.cons.injEq] at heq
            rw [← heq.1] at hplace ⊢
            exact List.isChain_cons_cons.2 ⟨hwaits, hplace.front_waits⟩

/-- The pair at such a place is found. -/
theorem Place.best?_eq {front back : List String} (h : rules.Place rank front a b back) :
    rules.best? (front ++ a :: b :: back) = some (rank, front.length) := by
  induction front with
  | nil =>
    refine best?_cons_cons_iff.2 (Or.inl ⟨h.rank_eq, rfl, ?_⟩)
    rintro ⟨other, behind⟩ hbest
    rcases exists_place hbest with ⟨front, c, d, rest, heq, _, hplace⟩
    have hwaits := h.back_waits
    rw [heq, List.isChain_append_cons_cons, waits_iff hplace.rank_eq] at hwaits
    exact hwaits.2.1
  | cons x front ih =>
    have hbest := ih ⟨h.rank_eq, h.front_waits.tail, h.back_waits⟩
    have hwaits := h.front_waits
    -- What stands behind the first symbol begins with the next of the front, or with the pair.
    cases front with
    | nil =>
      exact best?_cons_cons_iff.2 (Or.inr ⟨_, hbest, rfl, (List.isChain_cons_cons.1 hwaits).1⟩)
    | cons y front =>
      exact best?_cons_cons_iff.2 (Or.inr ⟨_, hbest, rfl, (List.isChain_cons_cons.1 hwaits).1⟩)

/-- At such a place, applying the rules goes on with the two symbols fused. -/
theorem Place.apply_eq {front back : List String} (h : rules.Place rank front a b back) :
    rules.apply (front ++ a :: b :: back) = rules.apply (front ++ (a ++ b) :: back) := by
  rw [apply_of_some h.best?_eq, fuseAt_append]

/-! ## Runs -/

/-- So many rounds lead from one row to another. -/
inductive Rounds (rules : MergeRules) : Nat → List String → List String → Prop
  | done (symbols : List String) : Rounds rules 0 symbols symbols
  | next {count rank : Nat} {front back result : List String} {a b : String}
      (place : rules.Place rank front a b back)
      (more : Rounds rules count (front ++ (a ++ b) :: back) result) :
      Rounds rules (count + 1) (front ++ a :: b :: back) result

/-- The symbol that a rule makes. -/
def Makes (rules : MergeRules) (symbol : String) : Prop :=
  ∃ rule ∈ rules.toList, symbol = rule.1 ++ rule.2

/-- What is fused at a place is made by a rule. -/
theorem Place.makes {front back : List String} (h : rules.Place rank front a b back) :
    rules.Makes (a ++ b) :=
  ⟨(a, b), List.mem_of_getElem? (rank?_eq_some_iff.1 h.rank_eq), rfl⟩

/-- Each round makes a row shorter by one. -/
theorem Rounds.length_eq (h : rules.Rounds count symbols result) :
    count + result.length = symbols.length := by
  induction h with
  | done symbols => exact Nat.zero_add _
  | next place more ih =>
    simp only [List.length_append, List.length_cons] at ih ⊢
    omega

/-- What the symbols spell together stays the same. -/
theorem Rounds.join_eq (h : rules.Rounds count symbols result) :
    String.join result = String.join symbols := by
  induction h with
  | done symbols => rfl
  | next place more ih => rw [ih, ← fuseAt_append, join_fuseAt]

/-- After some rounds every symbol was there before or is made by a rule. -/
theorem Rounds.mem (h : rules.Rounds count symbols result) {symbol : String}
    (hmem : symbol ∈ result) : symbol ∈ symbols ∨ rules.Makes symbol := by
  induction h with
  | done symbols => exact Or.inl hmem
  | next place more ih =>
    rcases ih hmem with hmem | hmakes
    · -- The row after the round differs from the one before it in the symbol that is made.
      rcases List.mem_append.1 hmem with hfront | hback
      · exact Or.inl (List.mem_append_left _ hfront)
      · rcases List.mem_cons.1 hback with rfl | hback
        · exact Or.inr place.makes
        · exact Or.inl (List.mem_append_right _ (by simp [hback]))
    · exact Or.inr hmakes

/-- Applying the rules is a run of rounds, which ends where no rule fits. -/
theorem exists_rounds (rules : MergeRules) (symbols : List String) :
    ∃ count, rules.Rounds count symbols (rules.apply symbols) ∧
      rules.Settled (rules.apply symbols) := by
  -- By the rounds: there is none where nothing is left to fuse, and otherwise one more than from
  -- the row with the pair fused.
  induction symbols using MergeRules.apply.induct rules with
  | case1 symbols hbest =>
    rw [apply_of_none hbest]
    exact ⟨0, .done symbols, best?_eq_none_iff.1 hbest⟩
  | case2 symbols rank position hbest ih =>
    rcases exists_place hbest with ⟨front, a, b, back, rfl, rfl, hplace⟩
    rw [fuseAt_append] at ih
    rcases ih with ⟨count, hrounds, hsettled⟩
    rw [hplace.apply_eq]
    exact ⟨count + 1, .next hplace hrounds, hsettled⟩

/-- A symbol in the end was there at the beginning or is made by a rule. -/
theorem mem_apply {symbol : String} (h : symbol ∈ rules.apply symbols) :
    symbol ∈ symbols ∨ rules.Makes symbol := by
  rcases exists_rounds rules symbols with ⟨_, hrounds, _⟩
  exact hrounds.mem h

/-- Applying the rules ends after as many rounds as the row gets shorter. The symbols spell what
    they spelled before, no rule fits any more, so that applying the rules again changes nothing,
    and every symbol was there at the beginning or is made by a rule. So if a vocabulary has the
    symbols at the beginning and those that the rules make, it has the tokens. -/
theorem apply_settles (rules : MergeRules) (symbols : List String) :
    (∃ count, rules.Rounds count symbols (rules.apply symbols) ∧
      count + (rules.apply symbols).length = symbols.length) ∧
    String.join (rules.apply symbols) = String.join symbols ∧
    rules.Settled (rules.apply symbols) ∧
    (∀ symbol ∈ rules.apply symbols, symbol ∈ symbols ∨ rules.Makes symbol) ∧
    rules.apply (rules.apply symbols) = rules.apply symbols ∧
    ∀ v : Vocabulary, (∀ symbol ∈ symbols, v.contains symbol = true) →
      (∀ rule ∈ rules.toList, v.contains (rule.1 ++ rule.2) = true) →
        ∀ token ∈ rules.apply symbols, v.contains token = true := by
  rcases exists_rounds rules symbols with ⟨count, hrounds, hsettled⟩
  refine ⟨⟨count, hrounds, hrounds.length_eq⟩, hrounds.join_eq, hsettled,
    fun symbol hmem => hrounds.mem hmem, apply_of_none (best?_eq_none_iff.2 hsettled), ?_⟩
  intro v hsymbols hmade token hmem
  rcases hrounds.mem hmem with hbefore | ⟨rule, hrule, rfl⟩
  · exact hsymbols token hbefore
  · exact hmade rule hrule

/-- A symbol that is made brings up a pair more urgent than the one it was made of. -/
theorem apply_settles_of_urgent : ∃ (rules : MergeRules) (v : Vocabulary),
    rules.toList = [("ab", "c"), ("a", "b")] ∧
    v.tokens.toList = ["<unk>", "a", "b", "c", "ab", "abc"] ∧
    rules.apply ["a", "b", "c", "a"] = ["abc", "a"] ∧
    ∀ token ∈ rules.apply ["a", "b", "c", "a"], v.contains token = true := by
  have hpairs : [("ab", "c"), ("a", "b")].Nodup := by decide
  rcases exists_ofPairs hpairs with ⟨rules, _, hrules⟩
  have hnodup : ["<unk>", "a", "b", "c", "ab", "abc"].Nodup := by decide
  rcases Vocabulary.exists_ofUnknown hnodup 0 (by decide) with ⟨v, _, hv, _⟩
  have hfirst : rules.best? ["a", "b", "c", "a"] = some (1, 0) := by
    simp [best?, rank?_eq_idxOf?, hrules, List.idxOf?_cons]
  have hsecond : rules.best? ["ab", "c", "a"] = some (0, 0) := by
    simp [best?, rank?_eq_idxOf?, hrules, List.idxOf?_cons]
  have hlast : rules.best? ["abc", "a"] = none := by
    simp [best?, rank?_eq_idxOf?, hrules, List.idxOf?_cons]
  have happly : rules.apply ["a", "b", "c", "a"] = ["abc", "a"] :=
    (apply_of_some hfirst).trans ((apply_of_some hsecond).trans (apply_of_none hlast))
  refine ⟨rules, v, hrules, hv, happly, ?_⟩
  refine (apply_settles rules ["a", "b", "c", "a"]).2.2.2.2.2 v ?_ ?_
  · simp only [Vocabulary.contains_iff, hv]
    decide
  · simp only [Vocabulary.contains_iff, hv, hrules]
    decide

end MergeRules

end Subword
