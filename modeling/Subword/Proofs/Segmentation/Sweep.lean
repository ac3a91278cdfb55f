import Subword.Segmentation

/-!
# Properties of cells along a search

What is said of the cells of a search is said in two ways. Of a cell ahead of the
present place it is said with that place, because the steps that begin there or
later have not been tried on it. When the place has come up to the cell there is
nothing left to try, and what is said of it then is what the search is run for.

Which properties these are is left open here. What the search does with cells is
the same for all of them: new cells come in fresh, far enough ahead that no step
has reached them, and going through a place offers one step to each cell ahead.

## Main definitions

* `RowOf`: A row of cells that have a property.
* `LastsOf`: What is left of cells that have a property.
* `Advances`: Steps that are offered to cells turn one property into another.
* `Invariant`: Properties that hold along a search.

## Theorems

* `tryAll_rowOf`: Trying all steps that start at a place.
* `Invariant.lasts_of`: What the search leaves of its cells.
-/

namespace Subword

namespace Segmentation

variable {S : Type} {choices : Choices S}

/-- A row of cells behind a text, each right for the text with some more characters. -/
def RowOf (right : List Char → Cell S → Prop) : List Char → List Char → List (Cell S) → Prop
  | s, c :: rest, cell :: cells => right (s ++ [c]) cell ∧ RowOf right (s ++ [c]) rest cells
  | _, _, _ => True

/-- The last steps for all places of a text in reverse, from the last place back, where the cell
    for each text is one that is `ready`. -/
def LastsOf (ready : List Char → Cell S → Prop) : List Last → List Char → Prop
  | lasts, [] => lasts.length = 1
  | last :: lasts, c :: s =>
    (∃ cell, ready (c :: s).reverse cell ∧ cell.last = last) ∧ LastsOf ready lasts s
  | [], _ :: _ => False

/-- Offering a cell the step from a given text to its own takes it from one property to another. -/
structure Advances [Score S] (choices : Choices S) (base : S) (front : List Char)
    (right next : List Char → Cell S → Prop) : Prop where
  piece : ∀ w cell score, w ≠ [] → choices.score? (String.ofList w) = some score →
    right (front ++ w) cell → next (front ++ w) (cell.offerPiece (Score.add base score) w.length)
  /-- Several characters that are no piece are no step. -/
  long : ∀ w cell, 1 < w.length → choices.score? (String.ofList w) = none →
    right (front ++ w) cell → next (front ++ w) cell
  unknown : ∀ c cell, choices.score? (String.ofList [c]) = none → right (front ++ [c]) cell →
    next (front ++ [c]) (cell.offerUnknown (Score.add base choices.unknown))

/-- What holds along a search of the cells ahead of a place, and of the cell that is there. -/
structure Invariant [Score S] (choices : Choices S)
    (right : Nat → List Char → Cell S → Prop) (ready : List Char → Cell S → Prop) : Prop where
  start : ready [] ⟨Score.zero, .unreached⟩
  /-- A fresh cell is right before the first place, and where no step can have reached it. -/
  fresh : ∀ place s, place = 0 ∨ place + choices.longest ≤ s.length → right place s Cell.fresh
  come : ∀ s cell, s ≠ [] → right s.length s cell → ready s cell
  step : ∀ s here c rest ahead, ready s here → RowOf (right s.length) s (c :: rest) ahead →
    RowOf (right (s.length + 1)) s (c :: rest) (tryAll choices here ahead c rest)

/-! ## Rows -/

theorem rowOf_nil (right : List Char → Cell S → Prop) (s rest : List Char) :
    RowOf right s rest [] := by
  cases rest <;> exact trivial

/-- What is left of the places in front of some characters. -/
theorem LastsOf.drop {ready : List Char → Cell S → Prop} (count : Nat) :
    ∀ {lasts : List Last} {s : List Char}, LastsOf ready lasts s → count ≤ s.length →
      LastsOf ready (lasts.drop count) (s.drop count) := by
  induction count with
  | zero =>
    intro lasts s h _
    rwa [List.drop_zero, List.drop_zero]
  | succ count ih =>
    intro lasts s h hle
    cases s with
    | nil => exact absurd hle (Nat.not_succ_le_zero count)
    | cons c s =>
      cases lasts with
      | nil => exact h.elim
      | cons last lasts =>
        rw [List.drop_succ_cons, List.drop_succ_cons]
        exact ih h.2 (Nat.le_of_succ_le_succ hle)

variable {right next : List Char → Cell S → Prop}

/-- What is true of all cells behind a text is true of a row of them. -/
theorem RowOf.imp {rest : List Char} : ∀ {s : List Char} {cells : List (Cell S)},
    (∀ w cell, right (s ++ w) cell → next (s ++ w) cell) → RowOf right s rest cells →
      RowOf next s rest cells := by
  induction rest with
  | nil =>
    intro s cells _ _
    exact trivial
  | cons c rest ih =>
    intro s cells h hrow
    cases cells with
    | nil => exact rowOf_nil next _ _
    | cons cell cells =>
      refine ⟨h [c] cell hrow.1, ih (fun w other hother => ?_) hrow.2⟩
      rw [List.append_assoc] at hother ⊢
      exact h _ other hother

variable [Score S] {front : List Char} {base : S}

/-- A fresh cell may come in at the far end of a row that is long enough. -/
theorem RowOf.append_fresh {width : Nat} (h : ∀ s, width ≤ s.length → right s Cell.fresh)
    {rest : List Char} : ∀ {s : List Char} {cells : List (Cell S)}, RowOf right s rest cells →
      width ≤ s.length + cells.length + 1 → RowOf right s rest (cells ++ [Cell.fresh]) := by
  induction rest with
  | nil =>
    intro s cells _ _
    exact trivial
  | cons c rest ih =>
    intro s cells hrow hfar
    cases cells with
    | nil =>
      refine ⟨h _ ?_, rowOf_nil right _ rest⟩
      rw [List.length_append, List.length_singleton]
      simpa only [List.length_nil, Nat.add_zero] using hfar
    | cons cell cells =>
      refine ⟨hrow.1, ih hrow.2 ?_⟩
      simp only [List.length_append, List.length_cons, List.length_nil] at hfar ⊢
      omega

theorem rowOf_replicate (h : ∀ s, right s Cell.fresh) (count : Nat) :
    ∀ s rest, RowOf right s rest (List.replicate count Cell.fresh) := by
  induction count with
  | zero => exact rowOf_nil right
  | succ count ih =>
    intro s rest
    cases rest with
    | nil => exact trivial
    | cons c rest => exact ⟨h _, ih _ rest⟩

/-! ## Trying steps -/

/-- Trying the pieces of more than one character that start at a place. -/
theorem tryPieces_rowOf (h : Advances choices base front right next) (rest : List Char) :
    ∀ (w : List Char) (cells : List (Cell S)), w ≠ [] → RowOf right (front ++ w) rest cells →
      RowOf next (front ++ w) rest
        (tryPieces choices base (String.ofList w) w.length rest cells) := by
  -- The characters `w` have been taken, and the row begins with the cell behind one more.
  induction rest with
  | nil =>
    intro w cells _ _
    exact trivial
  | cons c rest ih =>
    intro w cells hw hrow
    cases cells with
    | nil => exact rowOf_nil next _ _
    | cons cell cells =>
      have htaken : (String.ofList w).push c = String.ofList (w ++ [c]) := by
        rw [String.push_eq_append, String.singleton_eq_ofList, ← String.ofList_append]
      have hlength : (w ++ [c]).length = w.length + 1 := by
        rw [List.length_append, List.length_singleton]
      have hne : w ++ [c] ≠ [] := List.append_ne_nil_of_right_ne_nil _ (List.cons_ne_nil _ _)
      have hcell := hrow.1
      have hrest := hrow.2
      rw [List.append_assoc] at hcell hrest
      rw [tryPieces, htaken, ← hlength]
      refine ⟨?_, ?_⟩
      · rw [List.append_assoc]
        cases hscore : choices.score? (String.ofList (w ++ [c])) with
        | none =>
          have hlong := List.length_pos_iff.2 hw
          exact h.long _ _ (by omega) hscore hcell
        | some score => exact h.piece _ _ _ hne hscore hcell
      · rw [List.append_assoc]
        exact ih (w ++ [c]) cells hne hrest

/-- An unknown character is tried where no piece covers it alone. -/
theorem tryUnknown_cons (choices : Choices S) (base : S) (c : Char) (cell : Cell S)
    (cells : List (Cell S)) : tryUnknown choices base c (cell :: cells) =
      (if choices.score? (String.ofList [c]) = none then
        cell.offerUnknown (Score.add base choices.unknown)
      else cell) :: cells := by
  unfold tryUnknown
  rw [String.singleton_eq_ofList]
  cases choices.score? (String.ofList [c]) with
  | none => rw [if_pos rfl]
  | some score => rw [if_neg (Option.some_ne_none score)]

theorem length_tryPieces (choices : Choices S) (base : S) (s : List Char) :
    ∀ (taken : String) (length : Nat) (cells : List (Cell S)),
      (tryPieces choices base taken length s cells).length = cells.length := by
  induction s with
  | nil =>
    intro taken length cells
    cases cells <;> rw [tryPieces] <;> intros <;> contradiction
  | cons c rest ih =>
    intro taken length cells
    cases cells with
    | nil => rw [tryPieces]; intros; contradiction
    | cons cell cells => rw [tryPieces, List.length_cons, ih, List.length_cons]

theorem length_tryUnknown (choices : Choices S) (base : S) (c : Char) (cells : List (Cell S)) :
    (tryUnknown choices base c cells).length = cells.length := by
  unfold tryUnknown
  split <;> rfl

theorem length_tryAll (choices : Choices S) (here : Cell S) (ahead : List (Cell S)) (c : Char)
    (rest : List Char) : (tryAll choices here ahead c rest).length = ahead.length := by
  unfold tryAll
  split
  · rw [length_tryUnknown, length_tryPieces]
  · rfl

/-- Trying all steps that start at a place which has been reached. -/
theorem tryAll_rowOf {here : Cell S} (hreached : here.isReached = true)
    (h : Advances choices here.best front right next) (c : Char) (rest : List Char)
    {ahead : List (Cell S)} (hrow : RowOf right front (c :: rest) ahead) :
    RowOf next front (c :: rest) (tryAll choices here ahead c rest) := by
  cases ahead with
  | nil =>
    rw [List.eq_nil_of_length_eq_zero (length_tryAll choices here [] c rest)]
    exact rowOf_nil next _ _
  | cons cell cells =>
    have hempty : "".push c = String.ofList [c] := by
      rw [String.push_eq_append, String.singleton_eq_ofList, String.empty_append]
    have hrest := tryPieces_rowOf h rest [c] cells (List.cons_ne_nil _ _) hrow.2
    rw [tryAll, if_pos hreached, tryPieces, hempty, tryUnknown_cons]
    cases hscore : choices.score? (String.ofList [c]) with
    | none =>
      rw [if_pos rfl]
      exact ⟨h.unknown _ _ hscore hrow.1, hrest⟩
    | some score =>
      rw [if_neg (Option.some_ne_none score)]
      exact ⟨h.piece _ _ _ (List.cons_ne_nil _ _) hscore hrow.1, hrest⟩

/-! ## The whole search -/

namespace Invariant

variable {right : Nat → List Char → Cell S → Prop} {ready : List Char → Cell S → Prop}

/-- From a place on, the search leaves what its cells are ready for. -/
theorem lastsOnto_of (h : Invariant choices right ready) (rest : List Char) :
    ∀ (done : List Last) (s : List Char) (here : Cell S) (ahead : List (Cell S)), ready s here →
      LastsOf ready (here.last :: done) s.reverse → RowOf (right s.length) s rest ahead →
      ahead.length = choices.longest →
      LastsOf ready (lastsOnto choices done here ahead rest) (s ++ rest).reverse := by
  -- By induction on the text that is left. The row has the same length at every place, so that
  -- a cell which comes in is too far ahead for all steps that have been tried.
  induction rest with
  | nil =>
    intro done s here ahead _ hdone _ _
    rw [List.append_nil]
    exact hdone
  | cons c rest ih =>
    intro done s here ahead hhere hdone hrow hlength
    have hplace : (s ++ [c]).length = s.length + 1 := by
      rw [List.length_append, List.length_singleton]
    have hne : s ++ [c] ≠ [] := List.append_ne_nil_of_right_ne_nil _ (List.cons_ne_nil _ _)
    -- Whatever cell comes up to the next place is put in front of those before it.
    have hlast : ∀ cell, ready (s ++ [c]) cell →
        LastsOf ready (cell.last :: here.last :: done) (s ++ [c]).reverse := by
      intro cell hcell
      rw [List.reverse_append, List.reverse_singleton, List.singleton_append]
      refine ⟨⟨cell, ?_, rfl⟩, hdone⟩
      rw [List.reverse_cons, List.reverse_reverse]
      exact hcell
    have hstep := h.step s here c rest ahead hhere hrow
    have hcount := length_tryAll choices here ahead c rest
    have htext : s ++ c :: rest = s ++ [c] ++ rest := by
      rw [List.append_assoc, List.singleton_append]
    rw [lastsOnto, htext]
    cases htry : tryAll choices here ahead c rest with
    | nil =>
      -- Without a piece there is no row, and the next cell is fresh.
      rw [htry, hlength, List.length_nil] at hcount
      have hready := h.come _ _ hne (h.fresh _ _ (Or.inr (by omega)))
      exact ih _ _ _ _ hready (hlast _ hready) (rowOf_nil _ _ _) hcount
    | cons cell cells =>
      rw [htry] at hstep hcount
      rw [List.length_cons] at hcount
      rw [← hplace] at hstep
      have hready := h.come _ _ hne hstep.1
      refine ih _ _ _ _ hready (hlast _ hready) ?_ ?_
      · exact hstep.2.append_fresh (fun t hfar => h.fresh _ t (Or.inr hfar)) (by omega)
      · rw [List.length_append, List.length_singleton]
        omega

/-- The search leaves for all places of a text what its cells are ready for. -/
theorem lasts_of (h : Invariant choices right ready) (s : List Char) :
    LastsOf ready (lasts choices s) s.reverse :=
  h.lastsOnto_of s [] [] _ _ h.start rfl
    (rowOf_replicate (fun t => h.fresh 0 t (Or.inl rfl)) _ [] s) List.length_replicate

end Invariant

end Segmentation

end Subword
