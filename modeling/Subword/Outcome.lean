import Subword.Error

/-!
# Outcomes

What a step comes to: a result or an error, and the warnings given on the way.
Warnings given before an error are kept, which is why they stand beside the
result and not inside it.

## Main definitions

* `Outcome`: A result or an error, with warnings.
* `Outcome.warn`: One warning.
* `Outcome.ofExcept`: A result or an error without warnings.

## Theorems

* `Outcome.result_bind_eq_ok_iff`: Two steps succeed when the first does and then the second.
-/

namespace Subword

/-- A result or an error, with the warnings given on the way. -/
structure Outcome (α : Type) where
  result : Except Error α
  warnings : List Warning

namespace Outcome

variable {α β : Type}

/-- A result or an error without warnings. -/
def ofExcept (result : Except Error α) : Outcome α := ⟨result, []⟩

/-- An error without warnings. -/
def fail (e : Error) : Outcome α := ⟨.error e, []⟩

/-- One warning. -/
def warn (w : Warning) : Outcome Unit := ⟨.ok (), [w]⟩

/-- One step and then, unless it fails, the next. -/
def andThen (x : Outcome α) (f : α → Outcome β) : Outcome β :=
  match x.result with
  | .error e => ⟨.error e, x.warnings⟩
  | .ok a => ⟨(f a).result, x.warnings ++ (f a).warnings⟩

instance : Monad Outcome where
  pure a := ⟨.ok a, []⟩
  bind := andThen

@[simp] theorem result_pure (a : α) : (pure a : Outcome α).result = .ok a := rfl

@[simp] theorem warnings_pure (a : α) : (pure a : Outcome α).warnings = [] := rfl

@[simp] theorem result_ofExcept (r : Except Error α) : (ofExcept r).result = r := rfl

@[simp] theorem warnings_ofExcept (r : Except Error α) : (ofExcept r).warnings = [] := rfl

@[simp] theorem result_fail (e : Error) : (fail e : Outcome α).result = .error e := rfl

@[simp] theorem result_warn (w : Warning) : (warn w).result = .ok () := rfl

@[simp] theorem warnings_warn (w : Warning) : (warn w).warnings = [w] := rfl

@[simp] theorem result_bind (x : Outcome α) (f : α → Outcome β) :
    (x >>= f).result = x.result.bind fun a => (f a).result := by
  show (andThen x f).result = _
  unfold andThen
  cases x.result <;> rfl

@[simp] theorem result_map (f : α → β) (x : Outcome α) : (f <$> x).result = x.result.map f := by
  rcases x with ⟨_ | a, w⟩ <;> rfl

/-- Two steps succeed when the first does and then the second. -/
theorem result_bind_eq_ok_iff {x : Outcome α} {f : α → Outcome β} {b : β} :
    (x >>= f).result = .ok b ↔ ∃ a, x.result = .ok a ∧ (f a).result = .ok b := by
  rw [result_bind]
  cases x.result <;> simp [Except.bind]

instance : LawfulMonad Outcome := LawfulMonad.mk' Outcome
  (fun x => by
    rcases x with ⟨_ | a, w⟩ <;> simp [Functor.map, andThen])
  (fun a f => by
    show andThen ⟨.ok a, []⟩ f = f a
    simp [andThen])
  (fun x f g => by
    rcases x with ⟨_ | a, w⟩
    · rfl
    · show andThen (andThen _ _) _ = andThen _ _
      unfold andThen
      cases h : (f a).result <;> simp [h, bind, andThen])

end Outcome

end Subword
