import Subword.Segmentation

/-!
# Where pieces come from

Every piece that is read off a search has a score. Nothing about the scores is
needed for that, so it holds where they say nothing sensible as well: where
additions overflow, where a score compares with nothing, and where it is as low
as that of a place that has not been reached. A search over such scores may not
find the best segmentation, but it does not make pieces up.

A cell remembers the length of a piece and not the piece. What ties the two
together is the text in front of the cell's place, of which the piece is the
end. Texts are in reverse here, as they are where steps are read off, so the
piece is at the beginning.

## Main definitions

* `Last.Matches`: A last step that is a piece at the end of a text, if it is a piece.
* `AheadMatch`: The same of the cells ahead of a place.
* `LastsMatch`: The same of the places of a text.

## Theorems

* `tryAll_match`: Trying steps keeps the cells ahead right.
* `lasts_match`: The last steps of a search are right.
* `score?_of_mem_steps`: Every piece of a segmentation has a score.
-/

namespace Subword

namespace Segmentation

variable {S : Type} {choices : Choices S}

/-- A last step that is a piece at the end of a text, if it is a piece. The text is in reverse. -/
def Last.Matches (choices : Choices S) (last : Last) (front : List Char) : Prop :=
  ∀ length, last = .piece length →
    (choices.score? (String.ofList (front.take length).reverse)).isSome = true

/-- Cells ahead of a place, each of them right for the text in front of its own place. -/
def AheadMatch (choices : Choices S) : List Char → List Char → List (Cell S) → Prop
  | front, c :: rest, cell :: cells =>
    cell.last.Matches choices (c :: front) ∧ AheadMatch choices (c :: front) rest cells
  | _, _, _ => True

/-- The last steps of the places of a text, from its end back. -/
def LastsMatch (choices : Choices S) : List Last → List Char → Prop
  | last :: lasts, c :: front =>
    last.Matches choices (c :: front) ∧ LastsMatch choices lasts front
  | _, _ => True

theorem Last.matches_unreached (front : List Char) : Last.unreached.Matches choices front := by
  intro length h
  cases h

theorem Last.matches_unknown (front : List Char) : Last.unknown.Matches choices front := by
  intro length h
  cases h

/-! ## Reading off -/

/-- Leaving out some places leaves out as many characters. -/
theorem LastsMatch.drop (count : Nat) : ∀ {lasts : List Last} {front : List Char},
    LastsMatch choices lasts front →
      LastsMatch choices (lasts.drop count) (front.drop count) := by
  induction count with
  | zero =>
    intro lasts front h
    exact h
  | succ count ih =>
    intro lasts front h
    cases lasts with
    | nil => exact trivial
    | cons last lasts =>
      cases front with
      | nil =>
        rw [List.drop_nil]
        cases (last :: lasts).drop (count + 1) <;> exact trivial
      | cons c front => exact ih h.2

/-- An unknown step in front of some steps adds no piece to them. -/
theorem mem_of_mem_cons_unknown {w s : List Char} {done : List Step}
    (h : .piece w ∈ Step.unknown s :: done) : .piece w ∈ done := by
  rcases List.mem_cons.1 h with hfirst | hmem
  · cases hfirst
  · exact hmem

/-- A piece that is read off was read off before, or is at the end of the text as a last step
    says. -/
theorem score?_of_mem_traceOnto {w : List Char} (bound : Nat) : ∀ {done : List Step}
    {lasts : List Last} {front : List Char}, LastsMatch choices lasts front →
      (.piece w ∈ done → (choices.score? (String.ofList w)).isSome = true) →
        .piece w ∈ traceOnto done bound lasts front →
          (choices.score? (String.ofList w)).isSome = true := by
  induction bound with
  | zero =>
    intro done lasts front _ hdone hmem
    exact hdone hmem
  | succ bound ih =>
    intro done lasts front h hdone hmem
    cases front with
    | nil => exact hdone (by cases lasts <;> exact hmem)
    | cons c front =>
      cases lasts with
      | nil => exact hdone (mem_of_mem_cons_unknown hmem)
      | cons last lasts =>
        cases last with
        | unreached => exact hdone (mem_of_mem_cons_unknown hmem)
        | unknown => exact ih h.2 (fun hpiece => hdone (mem_of_mem_cons_unknown hpiece)) hmem
        | piece length =>
          refine ih (h.drop length) (fun hpiece => ?_) hmem
          rcases List.mem_cons.1 hpiece with hfirst | hpiece
          · -- The piece is the end of the text that the last step speaks of.
            rw [Step.piece.inj hfirst]
            exact h.1 length rfl
          · exact hdone hpiece

/-! ## The cells ahead -/

theorem aheadMatch_nil (front rest : List Char) :
    AheadMatch choices front rest ([] : List (Cell S)) := by
  cases rest with
  | nil => exact trivial
  | cons c rest => exact trivial

variable [Score S]

/-- A cell that no step has reached is right wherever it stands. -/
theorem AheadMatch.append_fresh {cells : List (Cell S)} : ∀ {front rest : List Char},
    AheadMatch choices front rest cells →
      AheadMatch choices front rest (cells ++ [Cell.fresh]) := by
  induction cells with
  | nil =>
    intro front rest _
    cases rest with
    | nil => exact trivial
    | cons c rest => exact ⟨Last.matches_unreached _, aheadMatch_nil _ rest⟩
  | cons cell cells ih =>
    intro front rest h
    cases rest with
    | nil => exact trivial
    | cons c rest => exact ⟨h.1, ih h.2⟩

theorem aheadMatch_replicate (count : Nat) : ∀ front rest : List Char,
    AheadMatch choices front rest (List.replicate count (Cell.fresh : Cell S)) := by
  induction count with
  | zero => exact aheadMatch_nil
  | succ count ih =>
    intro front rest
    cases rest with
    | nil => exact trivial
    | cons c rest => exact ⟨Last.matches_unreached _, ih _ _⟩

/-- A piece that is offered to a cell is the last step there, or else nothing changes. -/
theorem Cell.offerPiece_cases (cell : Cell S) (score : S) (length : Nat) :
    (cell.offerPiece score length).last = .piece length ∨ cell.offerPiece score length = cell := by
  unfold Cell.offerPiece
  split
  · exact Or.inl rfl
  · exact Or.inr rfl

/-- Trying pieces keeps the cells ahead right. The characters `taken` are those the pieces that
    are still to be tried begin with. -/
theorem tryPieces_match (base : S) {rest : List Char} : ∀ (front taken : List Char)
    {cells : List (Cell S)}, AheadMatch choices (taken.reverse ++ front) rest cells →
      AheadMatch choices (taken.reverse ++ front) rest
        (tryPieces choices base (String.ofList taken) taken.length rest cells) := by
  induction rest with
  | nil =>
    intro front taken cells h
    cases cells <;> exact trivial
  | cons c rest ih =>
    intro front taken cells h
    cases cells with
    | nil => exact trivial
    | cons cell cells =>
      have hpush : (String.ofList taken).push c = String.ofList (taken ++ [c]) := by
        rw [String.ofList_append]
        rfl
      have hlength : taken.length + 1 = (taken ++ [c]).length := by
        rw [List.length_append, List.length_singleton]
      have hfront : c :: (taken.reverse ++ front) = (taken ++ [c]).reverse ++ front := by
        rw [List.reverse_append]
        rfl
      unfold tryPieces
      rw [hpush, hlength]
      refine ⟨?_, ?_⟩
      · cases hscore : choices.score? (String.ofList (taken ++ [c])) with
        | none => exact h.1
        | some score =>
          rcases cell.offerPiece_cases (Score.add base score) (taken ++ [c]).length with
            hpiece | hsame
          · intro length hlast
            rw [hpiece, Last.piece.injEq] at hlast
            rw [← hlast, hfront, ← List.length_reverse, List.take_left, List.reverse_reverse,
              hscore]
            rfl
          · dsimp only
            rw [hsame]
            exact h.1
      · have hrest := h.2
        rw [hfront] at hrest ⊢
        exact ih front (taken ++ [c]) hrest

/-- Trying an unknown character keeps the cells ahead right. -/
theorem tryUnknown_match {front : List Char} {c : Char} {rest : List Char} {base : S}
    {cells : List (Cell S)} (h : AheadMatch choices front (c :: rest) cells) :
    AheadMatch choices front (c :: rest) (tryUnknown choices base c cells) := by
  unfold tryUnknown
  split
  · next cell cells _ =>
    refine ⟨?_, h.2⟩
    unfold Cell.offerUnknown
    split
    · exact Last.matches_unknown _
    · exact h.1
  · exact h

/-- Trying steps keeps the cells ahead right. -/
theorem tryAll_match {front : List Char} (here : Cell S) {ahead : List (Cell S)} {c : Char}
    {rest : List Char} (h : AheadMatch choices front (c :: rest) ahead) :
    AheadMatch choices front (c :: rest) (tryAll choices here ahead c rest) := by
  unfold tryAll
  split
  · exact tryUnknown_match (tryPieces_match here.best front [] h)
  · exact h

/-! ## The whole text -/

/-- The last steps up to a place and those found behind it are right. -/
theorem lastsOnto_match {rest : List Char} : ∀ {front : List Char} {done : List Last}
    {here : Cell S} {ahead : List (Cell S)}, LastsMatch choices (here.last :: done) front →
      AheadMatch choices front rest ahead →
        LastsMatch choices (lastsOnto choices done here ahead rest) (rest.reverse ++ front) := by
  induction rest with
  | nil =>
    intro front done here ahead hdone _
    exact hdone
  | cons c rest ih =>
    intro front done here ahead hdone hahead
    rw [List.reverse_cons, List.append_assoc, List.singleton_append]
    have htried := tryAll_match here hahead
    unfold lastsOnto
    split
    · next next cells heq =>
      rw [heq] at htried
      exact ih ⟨htried.1, hdone⟩ htried.2.append_fresh
    · exact ih ⟨Last.matches_unreached _, hdone⟩ (aheadMatch_nil _ _)

/-- The last steps of a search are right. -/
theorem lasts_match (choices : Choices S) (s : List Char) :
    LastsMatch choices (lasts choices s) s.reverse := by
  have h : LastsMatch choices (lasts choices s) (s.reverse ++ []) :=
    lastsOnto_match trivial (aheadMatch_replicate choices.longest [] s)
  rwa [List.append_nil] at h

/-- Every piece of a segmentation has a score. -/
theorem score?_of_mem_steps {s w : List Char} (h : .piece w ∈ steps choices s) :
    (choices.score? (String.ofList w)).isSome = true :=
  score?_of_mem_traceOnto s.length (lasts_match choices s)
    (fun hnil => absurd hnil List.not_mem_nil) h

end Segmentation

end Subword
