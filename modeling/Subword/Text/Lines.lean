/-!
# Lines

A text taken apart at the places of a separator, and lines without the marks at
their ends. Only the line feed begins a new line; other characters that end
lines elsewhere are part of a line here, since tokens can hold them.

## Main definitions

* `parts`: The parts of a text between separators.
* `lines`: The parts of a text between line feeds.
* `trimLineEnds`: A line without carriage returns and line feeds at its end.

## Theorems

* `parts_of_not_mem`: A text without a separator is one part.
* `parts_append`: A separator ends the part in front of it.
* `trimLineEnds_append`: Nothing but line ends is trimmed.
-/

namespace Subword

namespace Text

/-- The parts of a text between separators, after those in `done` and the characters of one that
    has begun, both in reverse. -/
def partsOnto (sep : Char) (done : List String) (part : List Char) : List Char → List String
  | [] => (String.ofList part.reverse :: done).reverse
  | c :: rest =>
    if c = sep then partsOnto sep (String.ofList part.reverse :: done) [] rest
    else partsOnto sep done (c :: part) rest

/-- The parts of a text between separators. There is always one. -/
def parts (sep : Char) (s : List Char) : List String := partsOnto sep [] [] s

/-- The parts of a text between line feeds. -/
def lines (s : List Char) : List String := parts '\n' s

/-- Whether a character marks the end of a line. -/
def isLineEnd (c : Char) : Bool := c = '\r' || c = '\n'

/-- A line without the marks at its end. -/
def trimLineEnds (s : List Char) : List Char := (s.reverse.dropWhile isLineEnd).reverse

/-- Characters that are no separators are part of the part that has begun. -/
theorem partsOnto_append {sep : Char} {s : List Char} (h : sep ∉ s) (done : List String)
    (part rest : List Char) :
    partsOnto sep done part (s ++ rest) = partsOnto sep done (s.reverse ++ part) rest := by
  induction s generalizing part with
  | nil => rfl
  | cons c s ih =>
    simp only [List.mem_cons, not_or] at h
    rw [List.cons_append, partsOnto, if_neg fun hc => h.1 hc.symm, ih h.2]
    simp

/-- The parts that are done stay in front. -/
theorem partsOnto_done (sep : Char) (done : List String) (part s : List Char) :
    partsOnto sep done part s = done.reverse ++ partsOnto sep [] part s := by
  induction s generalizing done part with
  | nil => simp [partsOnto]
  | cons c s ih =>
    by_cases h : c = sep
    · rw [partsOnto, if_pos h, ih, partsOnto, if_pos h, ih [String.ofList part.reverse]]
      simp
    · rw [partsOnto, if_neg h, ih, partsOnto, if_neg h]

/-- A text without a separator is one part. -/
theorem parts_of_not_mem {sep : Char} {s : List Char} (h : sep ∉ s) :
    parts sep s = [String.ofList s] := by
  have := partsOnto_append h [] [] []
  simpa [parts, partsOnto] using this

/-- A separator ends the part in front of it. -/
theorem parts_append {sep : Char} {s : List Char} (h : sep ∉ s) (rest : List Char) :
    parts sep (s ++ sep :: rest) = String.ofList s :: parts sep rest := by
  rw [parts, partsOnto_append h, partsOnto, if_pos rfl, partsOnto_done]
  simp [parts]

/-- Nothing but line ends is trimmed. -/
theorem trimLineEnds_append {s ends : List Char} (h : ∀ c ∈ ends, isLineEnd c = true)
    (hs : ∀ c, s.getLast? = some c → isLineEnd c = false) :
    trimLineEnds (s ++ ends) = s := by
  have he : ∀ c ∈ ends.reverse, isLineEnd c = true := fun c hc => h c (List.mem_reverse.1 hc)
  rw [trimLineEnds, List.reverse_append, List.dropWhile_append_of_pos he]
  cases hr : s.reverse with
  | nil => simpa using hr
  | cons c rest =>
    have hc : isLineEnd c = false := hs c (by simp [← List.head?_reverse, hr])
    rw [List.dropWhile_cons, if_neg (by simp [hc]), ← hr, List.reverse_reverse]

end Text

end Subword
