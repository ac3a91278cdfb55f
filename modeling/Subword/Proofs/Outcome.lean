import Mathlib.Data.List.Forall2
import Subword.Outcome

/-!
# One step for each entry of a list

Steps that are taken one after the other succeed when each of them does, and
otherwise fail as the first that fails. Taking them in groups, one group after
the other, makes no difference.

## Theorems

* `bind_eq_ok_iff`: Two steps succeed when the first does and then the second.
* `mapM_eq_ok_iff`: Steps succeed when each of them does.
* `exists_beside`, `exists_mem_beside`: Results stand beside their entries.
* `Outcome.result_mapM_eq_ok`: Steps that succeed give their results.
* `Outcome.result_mapM_eq_error`: The first step that fails is the error.
* `Outcome.exists_results_or_error`: There is no third case.
* `Outcome.mapM_groups`: Groups of steps are the steps.
* `Outcome.result_bind_of_ok`: After a step that succeeds comes the next.
-/

namespace Subword

/-- A step that succeeds on every entry of a list. -/
theorem mapM_eq_ok {α β : Type} {f : α → Except Error β} {g : α → β} {list : List α}
    (h : ∀ a ∈ list, f a = .ok (g a)) : list.mapM f = .ok (list.map g) := by
  induction list with
  | nil => rfl
  | cons a rest ih =>
    rw [List.mapM_cons, h a List.mem_cons_self, ih fun b hb => h b (List.mem_cons_of_mem a hb)]
    rfl

/-- Two steps succeed when the first does and then the second. -/
theorem bind_eq_ok_iff {ε α β : Type} {x : Except ε α} {f : α → Except ε β} {b : β} :
    x >>= f = .ok b ↔ ∃ a, x = .ok a ∧ f a = .ok b := by
  cases x with
  | error e =>
    constructor
    · intro h
      cases h
    · rintro ⟨a, ha, _⟩
      cases ha
  | ok a =>
    constructor
    · exact fun h => ⟨a, rfl, h⟩
    · rintro ⟨_, ⟨⟩, h⟩
      exact h

/-- What is done with a result changes no error. -/
theorem map_eq_error_iff {α β : Type} {f : α → β} {x : Except Error α} {e : Error} :
    x.map f = .error e ↔ x = .error e := by
  cases x with
  | error _ => rw [Except.map, Except.error.injEq, Except.error.injEq]
  | ok a =>
    constructor
    · intro h
      cases h
    · intro h
      cases h

/-- Steps succeed when each of them does. -/
theorem mapM_eq_ok_iff {ε α β : Type} {f : α → Except ε β} {list : List α} {results : List β} :
    list.mapM f = .ok results ↔ List.Forall₂ (fun a b => f a = .ok b) list results := by
  induction list generalizing results with
  | nil =>
    rw [List.mapM_nil, List.forall₂_nil_left_iff]
    constructor
    · exact fun h => (Except.ok.inj h).symm
    · rintro rfl
      rfl
  | cons a rest ih =>
    rw [List.mapM_cons, bind_eq_ok_iff, List.forall₂_cons_left_iff]
    constructor
    · rintro ⟨b, hb, h⟩
      rcases bind_eq_ok_iff.1 h with ⟨others, hothers, hresults⟩
      exact ⟨b, others, hb, ih.1 hothers, (Except.ok.inj hresults).symm⟩
    · rintro ⟨b, others, hb, hothers, rfl⟩
      refine ⟨b, hb, ?_⟩
      rw [ih.2 hothers]
      rfl

/-- Beside an entry stands its result. -/
theorem exists_beside {α β : Type} {R : α → β → Prop} {list : List α} {results : List β}
    (h : List.Forall₂ R list results) {i : Nat} {a : α} (ha : list[i]? = some a) :
    ∃ b, results[i]? = some b ∧ R a b := by
  induction h generalizing i with
  | nil =>
    rw [List.getElem?_nil] at ha
    exact absurd ha (Option.some_ne_none a).symm
  | @cons first result rest others hfirst _ ih =>
    cases i with
    | zero =>
      rw [List.getElem?_cons_zero, Option.some.injEq] at ha
      subst ha
      exact ⟨result, List.getElem?_cons_zero, hfirst⟩
    | succ i =>
      rw [List.getElem?_cons_succ] at ha
      rw [List.getElem?_cons_succ]
      exact ih ha

/-- Every entry has a result. -/
theorem exists_mem_beside {α β : Type} {R : α → β → Prop} {list : List α} {results : List β}
    (h : List.Forall₂ R list results) {a : α} (ha : a ∈ list) : ∃ b ∈ results, R a b := by
  rcases List.mem_iff_getElem?.1 ha with ⟨i, hi⟩
  rcases exists_beside h hi with ⟨b, hb, hab⟩
  exact ⟨b, List.mem_of_getElem? hb, hab⟩

namespace Outcome

variable {α β : Type}

/-- Nothing comes after an error. -/
theorem bind_of_error {x : Outcome α} {e : Error} (h : x.result = .error e)
    (f g : α → Outcome β) : x >>= f = x >>= g := by
  show andThen x f = andThen x g
  unfold andThen
  rw [h]

/-- After a step that succeeds comes the next. -/
theorem result_bind_of_ok {x : Outcome α} {a : α} (h : x.result = .ok a) (f : α → Outcome β) :
    (x >>= f).result = (f a).result := by
  rw [result_bind, h]
  rfl

variable {f : α → Outcome β}

/-- Steps that succeed give their results. -/
theorem result_mapM_eq_ok {list : List α} {results : List β}
    (h : List.Forall₂ (fun a b => (f a).result = .ok b) list results) :
    (list.mapM f).result = .ok results := by
  induction h with
  | nil => rfl
  | cons ha _ ih =>
    rw [List.mapM_cons, result_bind, ha]
    dsimp only [Except.bind]
    rw [result_bind, ih]
    rfl

/-- The first step that fails is the error. -/
theorem result_mapM_eq_error {before after : List α} {a : α} {e : Error}
    (hbefore : ∀ b ∈ before, ∃ result, (f b).result = .ok result)
    (ha : (f a).result = .error e) : ((before ++ a :: after).mapM f).result = .error e := by
  induction before with
  | nil =>
    rw [List.nil_append, List.mapM_cons, result_bind, ha]
    rfl
  | cons b rest ih =>
    rcases hbefore b List.mem_cons_self with ⟨result, hb⟩
    have hrest := ih fun c hc => hbefore c (List.mem_cons_of_mem b hc)
    rw [List.cons_append, List.mapM_cons, result_bind, hb]
    dsimp only [Except.bind]
    rw [result_bind, hrest]
    rfl

/-- Either all steps succeed, or there is a first one that fails. -/
theorem exists_results_or_error (f : α → Outcome β) (list : List α) :
    (∃ results, List.Forall₂ (fun a b => (f a).result = .ok b) list results) ∨
      ∃ before a after e, list = before ++ a :: after ∧
        (∀ b ∈ before, ∃ result, (f b).result = .ok result) ∧ (f a).result = .error e := by
  induction list with
  | nil => exact Or.inl ⟨[], .nil⟩
  | cons a rest ih =>
    cases ha : (f a).result with
    | error e =>
      -- Nothing stands in front of the first entry, so its error is the first.
      exact Or.inr ⟨[], a, rest, e, rfl, fun b hb => absurd hb List.not_mem_nil, ha⟩
    | ok b =>
      rcases ih with ⟨results, hresults⟩ | ⟨before, c, after, e, rfl, hbefore, hc⟩
      · exact Or.inl ⟨b :: results, .cons ha hresults⟩
      · refine Or.inr ⟨a :: before, c, after, e, rfl, ?_, hc⟩
        intro d hd
        rcases List.mem_cons.1 hd with rfl | hd
        · exact ⟨b, ha⟩
        · exact hbefore d hd

/-- Groups of steps are the steps. -/
theorem mapM_groups (f : α → Outcome β) (groups : List (List α)) :
    (groups.mapM fun group => group.mapM f) >>= (fun rows => pure rows.flatten)
      = groups.flatten.mapM f := by
  induction groups with
  | nil => rfl
  | cons group rest ih =>
    rw [List.mapM_cons, List.flatten_cons, List.mapM_append, ← ih]
    simp only [bind_assoc, pure_bind, List.flatten_cons]

end Outcome

end Subword
