import Subword.Descriptor.Table
import Subword.Proofs.Outcome
import Subword.Proofs.Vocabulary.Mapping

/-!
# What tables of descriptors hold

Added tokens are put into a table one after the other. What the table held
before stays, unless it was null, which is how a document says that a token has
no id; every added token ends up with a value equal to its id; and nothing else
comes in. These three go through a whole list of added tokens as they are, since
a value that is equal to an id is not null and so is never replaced.

The value of an added token need not be its id: a flag or a decimal can be equal
to it as well. That it is an integer in the end is for the vocabulary to check.

## Main definitions

* `Descriptor.Merges`: A table with added tokens.
* `Descriptor.declaredScore?`: The score that a value stands for.
* `Descriptor.Scores`: A list entry that is a piece with its score.

## Theorems

* `Descriptor.withAdded_merges`: Tables with added tokens are such.
* `Descriptor.mem_keys_withAdded`: Their tokens are the old ones and the added ones.
* `Descriptor.piecesFrom_scores`: The pieces of a list are those of its entries.
* `Descriptor.length_le_of_merges`: There are as many ids as pieces, at least.
-/

namespace Subword

namespace Descriptor

variable {entries merged : List (String × Json)} {added : List AddedToken}

/-- A table with added tokens: it keeps all values but null, every added token has a value equal
    to its id, and all other entries are old ones. -/
structure Merges (entries : List (String × Json)) (added : List AddedToken)
    (merged : List (String × Json)) : Prop where
  keeps : ∀ token value, (token, value) ∈ entries → value ≠ .null → (token, value) ∈ merged
  adds : ∀ a ∈ added, ∃ value, (a.text, value) ∈ merged ∧ value.equalsInt a.id = true
  only : ∀ token value, (token, value) ∈ merged →
    (token, value) ∈ entries ∨ ∃ a ∈ added, a.text = token

/-! ## One token -/

theorem mem_setId_self (token : String) (id : Int) :
    (token, .int id) ∈ setId token id entries := by
  induction entries with
  | nil => exact List.mem_cons_self
  | cons entry rest ih =>
    rcases entry with ⟨name, value⟩
    unfold setId
    split
    · next hname =>
      rw [hname]
      exact List.mem_cons_self
    · exact List.mem_cons_of_mem _ ih

/-- Setting an id replaces at most the first value of its token. -/
theorem mem_setId_of_mem {token name : String} {id : Int} {value : Json}
    (hmem : (name, value) ∈ entries) (hne : entries.lookup token ≠ some value) :
    (name, value) ∈ setId token id entries := by
  induction entries with
  | nil => exact absurd hmem List.not_mem_nil
  | cons entry rest ih =>
    rcases entry with ⟨first, other⟩
    unfold setId
    split
    · next hfirst =>
      rw [hfirst, List.lookup_cons_self] at hne
      rcases List.mem_cons.1 hmem with heq | hmem
      · rw [Prod.mk.injEq] at heq
        exact absurd (congrArg some heq.2.symm) hne
      · exact List.mem_cons_of_mem _ hmem
    · next hfirst =>
      rcases List.mem_cons.1 hmem with heq | hmem
      · rw [heq]
        exact List.mem_cons_self
      · have hlookup : ((first, other) :: rest).lookup token = rest.lookup token := by
          rw [List.lookup_cons, beq_false_of_ne (Ne.symm hfirst)]
        rw [hlookup] at hne
        exact List.mem_cons_of_mem _ (ih hmem hne)

theorem mem_of_mem_setId {token name : String} {id : Int} {value : Json}
    (hmem : (name, value) ∈ setId token id entries) : (name, value) ∈ entries ∨ token = name := by
  induction entries with
  | nil =>
    rcases Prod.mk.injEq .. ▸ List.mem_singleton.1 hmem with ⟨hname, _⟩
    exact Or.inr hname.symm
  | cons entry rest ih =>
    rcases entry with ⟨first, other⟩
    unfold setId at hmem
    split at hmem
    · next hfirst =>
      rcases List.mem_cons.1 hmem with heq | hmem
      · rcases Prod.mk.injEq .. ▸ heq with ⟨hname, _⟩
        exact Or.inr (hfirst.symm.trans hname.symm)
      · exact Or.inl (List.mem_cons_of_mem _ hmem)
    · rcases List.mem_cons.1 hmem with heq | hmem
      · rw [heq]
        exact Or.inl List.mem_cons_self
      · exact (ih hmem).imp_left (List.mem_cons_of_mem _)

/-- Setting an id brings in its token, if it is not there, and no other one. -/
theorem mem_keys_setId {token name : String} {id : Int} :
    name ∈ (setId token id entries).map Prod.fst ↔ name ∈ entries.map Prod.fst ∨ token = name := by
  induction entries with
  | nil => simp [setId, eq_comm]
  | cons entry rest ih =>
    rcases entry with ⟨first, other⟩
    unfold setId
    split
    · next hfirst =>
      subst hfirst
      simp only [List.map_cons, List.mem_cons]
      constructor
      · exact Or.inl
      · rintro (h | rfl)
        · exact h
        · exact Or.inl rfl
    · simp only [List.map_cons, List.mem_cons, ih, or_assoc]

theorem equalsInt_int (id : Int) : (Json.int id).equalsInt id = true :=
  decide_eq_true rfl

theorem ne_null_of_equalsInt {value : Json} {id : Int} (h : value.equalsInt id = true) :
    value ≠ .null := by
  rintro rfl
  exact absurd (of_decide_eq_true h) (Option.some_ne_none id).symm

/-- One added token. -/
theorem addToken_merges {token : AddedToken} (h : addToken entries token = .ok merged) :
    Merges entries [token] merged := by
  unfold addToken at h
  split at h
  · next hnull =>
    rw [← Except.ok.inj h]
    refine ⟨?_, ?_, ?_⟩
    · intro name value hmem hvalue
      apply mem_setId_of_mem hmem
      intro hlookup
      rw [hlookup, Option.getD_some] at hnull
      exact hvalue hnull
    · intro a ha
      rw [List.mem_singleton.1 ha]
      exact ⟨_, mem_setId_self token.text token.id, equalsInt_int token.id⟩
    · intro name value hmem
      refine (mem_of_mem_setId hmem).imp_right fun hname => ?_
      exact ⟨token, List.mem_singleton_self token, hname⟩
  · next hpresent =>
    split at h
    · next hequal =>
      rw [← Except.ok.inj h]
      refine ⟨fun _ _ hmem _ => hmem, ?_, fun _ _ hmem => Or.inl hmem⟩
      intro a ha
      rw [List.mem_singleton.1 ha]
      cases hlookup : entries.lookup token.text with
      | none =>
        rw [hlookup, Option.getD_none] at hpresent
        exact absurd rfl hpresent
      | some value =>
        rw [hlookup, Option.getD_some] at hequal
        exact ⟨value, mem_of_lookup hlookup, hequal⟩
    · cases h

/-! ## All tokens -/

/-- Tables with added tokens hold these and what they held before. -/
theorem withAdded_merges (h : withAdded entries added = .ok merged) :
    Merges entries added merged := by
  induction added generalizing entries with
  | nil =>
    have heq : entries = merged := Except.ok.inj h
    rw [heq]
    exact ⟨fun _ _ hmem _ => hmem, fun _ ha => absurd ha List.not_mem_nil,
      fun _ _ hmem => Or.inl hmem⟩
  | cons token rest ih =>
    rcases bind_eq_ok_iff.1 h with ⟨next, hnext, hrest⟩
    have hfirst := addToken_merges hnext
    have hothers := ih hrest
    refine ⟨?_, ?_, ?_⟩
    · intro name value hmem hvalue
      exact hothers.keeps name value (hfirst.keeps name value hmem hvalue) hvalue
    · intro a ha
      rcases List.mem_cons.1 ha with rfl | ha
      · -- The value of the first token is not null, so the others leave it as it is.
        rcases hfirst.adds a (List.mem_singleton_self a) with ⟨value, hmem, hequal⟩
        exact ⟨value, hothers.keeps _ _ hmem (ne_null_of_equalsInt hequal), hequal⟩
      · exact hothers.adds a ha
    · intro name value hmem
      rcases hothers.only name value hmem with hmem | ⟨a, ha, hname⟩
      · rcases hfirst.only name value hmem with hmem | ⟨a, ha, hname⟩
        · exact Or.inl hmem
        · rw [List.mem_singleton.1 ha] at hname
          exact Or.inr ⟨token, List.mem_cons_self, hname⟩
      · exact Or.inr ⟨a, List.mem_cons_of_mem token ha, hname⟩

theorem mem_keys_addToken {token : AddedToken} (h : addToken entries token = .ok merged)
    {name : String} : name ∈ merged.map Prod.fst ↔
      name ∈ entries.map Prod.fst ∨ token.text = name := by
  unfold addToken at h
  split at h
  · rw [← Except.ok.inj h]
    exact mem_keys_setId
  · next hpresent =>
    split at h
    · rw [← Except.ok.inj h]
      refine ⟨Or.inl, ?_⟩
      rintro (hname | rfl)
      · exact hname
      · -- There is a value for the token, so the token is in the table.
        cases hlookup : entries.lookup token.text with
        | none =>
          rw [hlookup, Option.getD_none] at hpresent
          exact absurd rfl hpresent
        | some value => exact List.mem_map.2 ⟨_, mem_of_lookup hlookup, rfl⟩
    · cases h

/-- A table with added tokens has these and those that it had before. -/
theorem mem_keys_withAdded (h : withAdded entries added = .ok merged) {name : String} :
    name ∈ merged.map Prod.fst ↔
      name ∈ entries.map Prod.fst ∨ ∃ a ∈ added, a.text = name := by
  induction added generalizing entries with
  | nil =>
    have heq : entries = merged := Except.ok.inj h
    simp [heq]
  | cons token rest ih =>
    rcases bind_eq_ok_iff.1 h with ⟨next, hnext, hrest⟩
    rw [ih hrest, mem_keys_addToken hnext, List.exists_mem_cons_iff, or_assoc]

/-! ## Pieces -/

/-- The score that a value stands for: an integer or a decimal. -/
def declaredScore? : Json → Option Float
  | .int n => some (Decimal.ofInt n)
  | .float x => some x
  | _ => none

/-- A list entry that is a piece with its score. -/
def Scores (entry : Json) (piece : String × Float) : Prop :=
  ∃ value, entry = .arr [.str piece.1, value] ∧ declaredScore? value = some piece.2

theorem scoreOf_eq_ok {n : Int} {score : Float} (h : scoreOf n = .ok score) :
    Decimal.ofInt n = score := by
  unfold scoreOf at h
  split at h
  · exact Except.ok.inj h
  · cases h

theorem scores_of_pieceOf {index : Nat} {entry : Json} {piece : String} {score : Float}
    (h : pieceOf index entry = .ok (piece, .ok score)) : Scores entry (piece, score) := by
  unfold pieceOf at h
  split at h
  · next text n =>
    obtain ⟨rfl, hscore⟩ := Prod.mk.inj (Except.ok.inj h)
    exact ⟨.int n, rfl, congrArg some (scoreOf_eq_ok hscore)⟩
  · next text x =>
    obtain ⟨rfl, hscore⟩ := Prod.mk.inj (Except.ok.inj h)
    exact ⟨.float x, rfl, congrArg some (Except.ok.inj hscore)⟩
  · cases h

/-- The pieces of a list are those of its entries, in their order. -/
theorem piecesFrom_scores {items : List Json} {pieces : List (String × Float)} :
    ∀ {index : Nat} {seen : Std.HashSet String}, piecesFrom index seen items = .ok pieces →
      List.Forall₂ Scores items pieces := by
  induction items generalizing pieces with
  | nil =>
    intro index seen h
    rw [← Except.ok.inj h]
    exact .nil
  | cons item rest ih =>
    intro index seen h
    unfold piecesFrom at h
    split at h
    · cases h
    · next piece converted hpiece =>
      split at h
      · cases h
      · split at h
        · cases h
        · next score =>
          cases hrest : piecesFrom (index + 1) (seen.insert piece) rest with
          | error fault =>
            rw [hrest] at h
            cases h
          | ok others =>
            rw [hrest] at h
            rw [← Except.ok.inj h]
            exact .cons (scores_of_pieceOf hpiece) (ih hrest)

/-- The table of ids of some pieces numbers their texts. -/
theorem pieceIds_eq (pieces : List (String × Float)) :
    pieceIds pieces = Vocabulary.numbered (pieces.map Prod.fst) := by
  apply List.ext_getElem?
  intro id
  rw [pieceIds, Vocabulary.numbered, List.getElem?_mapIdx, List.getElem?_mapIdx,
    List.getElem?_map, Option.map_map]
  rfl

/-- There are at least as many ids as pieces, since no added token takes the place of one. -/
theorem length_le_of_merges {pieces : List (String × Float)}
    (h : Merges (pieceIds pieces) added merged) : pieces.length ≤ merged.length := by
  rw [pieceIds_eq] at h
  have hsubset : Vocabulary.numbered (pieces.map Prod.fst) ⊆ merged := by
    rintro ⟨token, value⟩ hmem
    apply h.keeps token value hmem
    rcases Vocabulary.mem_numbered.1 hmem with ⟨id, rfl, _⟩
    exact ne_null_of_equalsInt (equalsInt_int id)
  have hle := (List.subperm_of_subset (Vocabulary.nodup_numbered _) hsubset).length_le
  rwa [Vocabulary.length_numbered, List.length_map] at hle

end Descriptor

end Subword
