import Subword.Text.Search

/-!
# A suffix replaced behind every part

Parts of a text that end with a suffix each have it replaced, and nothing else
is, if no part has the suffix in it and the first character of the suffix does
not come again in the suffix. An occurrence that began inside a part would have
to go on with the beginning of the suffix behind it.

## Theorems

* `Text.replace_front`, `Text.replace_of_not`: Replacing, one step at a time.
* `Text.not_begins_inside`: No occurrence begins inside a part.
* `Text.replace_flatMap`: The suffix of every part is replaced.
-/

namespace Subword

namespace Text

variable {needle new tail part rest : List Char} {c lead : Char}

/-! ## One step at a time -/

/-- What is done stays in front. -/
theorem replaceOnto_eq (needle new s : List Char) : ∀ (done : List Char) (skip : Nat),
    replaceOnto needle new done skip s = done.reverse ++ replaceOnto needle new [] skip s := by
  induction s with
  | nil =>
    intro done skip
    rw [replaceOnto, replaceOnto, List.reverse_nil, List.append_nil]
  | cons d rest ih =>
    intro done skip
    cases skip with
    | succ skip => rw [replaceOnto, replaceOnto, ih]
    | zero =>
      rw [replaceOnto, replaceOnto]
      split
      · rw [ih, ih (new.reverseAux [])]
        simp only [List.reverseAux_eq, List.reverse_append, List.reverse_reverse, List.append_nil,
          List.append_assoc]
      · rw [ih, ih [d], List.reverse_cons, List.reverse_singleton, List.append_assoc]

theorem replaceOnto_skip (needle new s : List Char) : ∀ skip : Nat,
    replaceOnto needle new [] skip s = replace needle new (s.drop skip) := by
  induction s with
  | nil =>
    intro skip
    rw [List.drop_nil]
    rfl
  | cons d rest ih =>
    intro skip
    cases skip with
    | zero => rfl
    | succ skip => rw [replaceOnto, ih, List.drop_succ_cons]

/-- An occurrence at the beginning of a text is replaced. -/
theorem replace_front (hne : needle ≠ []) (new rest : List Char) :
    replace needle new (needle ++ rest) = new ++ replace needle new rest := by
  cases needle with
  | nil => exact absurd rfl hne
  | cons lead tail =>
    have hoccurs : (lead :: tail).isPrefixOf (lead :: (tail ++ rest)) = true :=
      List.isPrefixOf_iff_prefix.2 (List.prefix_append (lead :: tail) rest)
    rw [replace, List.cons_append, replaceOnto, if_pos hoccurs, replaceOnto_eq, replaceOnto_skip,
      List.reverseAux_eq, List.append_nil, List.reverse_reverse, List.length_cons,
      Nat.add_sub_cancel, List.drop_left]

/-- Where nothing occurs, the first character of a text is left. -/
theorem replace_of_not (h : ¬ needle <+: c :: rest) (new : List Char) :
    replace needle new (c :: rest) = c :: replace needle new rest := by
  rw [← List.isPrefixOf_iff_prefix] at h
  rw [replace, replaceOnto, if_neg h, replaceOnto_eq]
  rfl

/-! ## Parts with a suffix -/

/-- No occurrence of a suffix begins inside a part, unless the part has one in it. -/
theorem not_begins_inside (hlead : lead ∉ tail) (hpart : ¬ lead :: tail <:+: part)
    (hne : part ≠ []) (rest : List Char) : ¬ lead :: tail <+: part ++ (lead :: tail ++ rest) := by
  intro h
  have hfront : part <+: part ++ (lead :: tail ++ rest) := List.prefix_append _ _
  rcases Nat.le_total (lead :: tail).length part.length with hle | hle
  · exact hpart (List.prefix_of_prefix_length_le h hfront hle).isInfix
  · -- The part is the beginning of the suffix, and what is missing begins with the suffix.
    rcases List.prefix_of_prefix_length_le hfront h hle with ⟨missing, hmissing⟩
    rw [← hmissing, List.prefix_append_right_inj] at h
    cases part with
    | nil => exact hne rfl
    | cons d more =>
      rw [List.cons_append, List.cons.injEq] at hmissing
      cases missing with
      | nil =>
        have hwhole : lead :: tail = d :: more := by
          rw [← hmissing.2, hmissing.1, List.append_nil]
        rw [hwhole] at hpart
        exact hpart List.infix_rfl
      | cons e missing =>
        have hfirst : e = lead := (List.cons_prefix_cons.1 h).1.trans hmissing.1
        apply hlead
        rw [← hmissing.2, hfirst]
        exact List.mem_append_right more List.mem_cons_self

theorem replace_append (hlead : lead ∉ tail) (hpart : ¬ lead :: tail <:+: part)
    (new rest : List Char) : replace (lead :: tail) new (part ++ (lead :: tail ++ rest))
      = part ++ (new ++ replace (lead :: tail) new rest) := by
  induction part with
  | nil => exact replace_front (List.cons_ne_nil lead tail) new rest
  | cons d more ih =>
    have hmore : ¬ lead :: tail <:+: more :=
      fun h => hpart (h.trans (List.suffix_cons d more).isInfix)
    have hnone := not_begins_inside hlead hpart (List.cons_ne_nil d more) rest
    rw [List.cons_append] at hnone
    rw [List.cons_append, replace_of_not hnone, ih hmore, List.cons_append]

/-- The suffix of every part is replaced, and nothing else is. -/
theorem replace_flatMap (hlead : lead ∉ tail) {parts : List (List Char)}
    (hparts : ∀ part ∈ parts, ¬ lead :: tail <:+: part) (new : List Char) :
    replace (lead :: tail) new (parts.flatMap fun part => part ++ lead :: tail)
      = parts.flatMap fun part => part ++ new := by
  induction parts with
  | nil => rfl
  | cons part more ih =>
    have hmore := ih fun other hother => hparts other (List.mem_cons_of_mem part hother)
    rw [List.flatMap_cons, List.append_assoc,
      replace_append hlead (hparts part List.mem_cons_self), hmore, List.flatMap_cons,
      List.append_assoc]

end Text

end Subword
