import Subword.Regex.Ends

/-!
# How far a match reaches

A match goes from a place to a later one of the same text, and it takes at
least as many characters as the shortest text of its expression has. Both are
said at once by `Cursor.Takes`, which is what adds up along a sequence. Of a
walk over one set it is known besides which characters it takes, and this is
said by `Cursor.Crosses`.

For a repetition this holds because of what every task stands for: so many
rounds have been made already, each of which took its share. Rounds beyond the
least number are not counted, and the least number is all that the shortest
text depends on.

## Main definitions

* `Regex.Cursor.Takes`: A later place, with so many characters between.
* `Regex.Cursor.Crosses`: A later place, with only characters of a set between.
* `Regex.shortest`: The least number of characters that a match takes.
* `Regex.Task.Sound`: What a task of a repetition stands for.

## Theorems

* `Regex.takes_work`: The invariant of a repetition.
* `Regex.takes_ends`: How far a match reaches.
-/

namespace Subword

namespace Regex

/-! ## Places -/

namespace Cursor

/-- From one place to another of the same text, with at least so many characters between. -/
def Takes (least : Nat) (c d : Cursor) : Prop :=
  ∃ taken, c.rest = taken ++ d.rest ∧ d.passed = c.passed + taken.length ∧ least ≤ taken.length

namespace Takes

variable {least more : Nat} {c d e : Cursor}

theorem refl (c : Cursor) : Takes 0 c c :=
  ⟨[], rfl, rfl, Nat.le_refl 0⟩

/-- One character is taken. -/
theorem one (x : Char) (rest : List Char) (passed : Nat) :
    Takes 1 ⟨x :: rest, passed⟩ ⟨rest, passed + 1⟩ :=
  ⟨[x], rfl, rfl, Nat.le_refl 1⟩

theorem trans (h : Takes least c d) (h' : Takes more d e) : Takes (least + more) c e := by
  rcases h with ⟨taken, hrest, hpassed, hleast⟩
  rcases h' with ⟨taken', hrest', hpassed', hleast'⟩
  refine ⟨taken ++ taken', ?_, ?_, ?_⟩
  · rw [hrest, hrest', List.append_assoc]
  · rw [List.length_append]
    omega
  · rw [List.length_append]
    omega

theorem mono (h : Takes least c d) (hle : more ≤ least) : Takes more c d := by
  rcases h with ⟨taken, hrest, hpassed, hleast⟩
  exact ⟨taken, hrest, hpassed, Nat.le_trans hle hleast⟩

theorem passed_le (h : Takes least c d) : c.passed + least ≤ d.passed := by
  rcases h with ⟨taken, hrest, hpassed, hleast⟩
  omega

/-- How many characters are between two places can be told from how many are in front. -/
theorem of_passed_le (h : Takes least c d) (hle : c.passed + more ≤ d.passed) :
    Takes more c d := by
  rcases h with ⟨taken, hrest, hpassed, _⟩
  exact ⟨taken, hrest, hpassed, by omega⟩

/-- The characters between two places and those behind are the characters from the first
    place on. -/
theorem between_append (h : Takes least c d) : c.between d ++ d.rest = c.rest := by
  rcases h with ⟨taken, hrest, hpassed, _⟩
  have hcount : d.passed - c.passed = taken.length := by omega
  rw [between, hcount, hrest, List.take_left]

theorem length_rest (h : Takes least c d) : d.rest.length + least ≤ c.rest.length := by
  rcases h with ⟨taken, hrest, _, hleast⟩
  have hlength := congrArg List.length hrest
  rw [List.length_append] at hlength
  omega

theorem between_ne_nil (h : Takes (least + 1) c d) : c.between d ≠ [] := by
  intro hnil
  have happend := h.between_append
  have hlength := h.length_rest
  rw [← happend, hnil, List.nil_append] at hlength
  omega

end Takes

/-- From one place to another of the same text, over characters of a set only. -/
def Crosses (caseless : Bool) (set : CharSet) (c d : Cursor) : Prop :=
  ∃ taken, c.rest = taken ++ d.rest ∧ d.passed = c.passed + taken.length ∧
    ∀ x ∈ taken, set.accepts caseless x = true

namespace Crosses

variable {caseless : Bool} {set : CharSet} {c d : Cursor} {x : Char} {rest : List Char}
  {passed : Nat}

theorem refl (c : Cursor) : Crosses caseless set c c := by
  refine ⟨[], rfl, rfl, ?_⟩
  intro x hx
  cases hx

/-- One more character of the set is taken first. -/
theorem cons (hx : set.accepts caseless x = true)
    (h : Crosses caseless set ⟨rest, passed + 1⟩ d) :
    Crosses caseless set ⟨x :: rest, passed⟩ d := by
  rcases h with ⟨taken, hrest, hpassed, hall⟩
  dsimp only at hrest hpassed
  refine ⟨x :: taken, ?_, ?_, ?_⟩
  · rw [hrest, List.cons_append]
  · rw [hpassed, List.length_cons]
    dsimp only
    omega
  · intro y hy
    rcases List.mem_cons.1 hy with rfl | hy
    · exact hx
    · exact hall y hy

theorem accepts_of_mem_between (h : Crosses caseless set c d) (hx : x ∈ c.between d) :
    set.accepts caseless x = true := by
  rcases h with ⟨taken, hrest, hpassed, hall⟩
  have hcount : d.passed - c.passed = taken.length := by omega
  rw [between, hcount, hrest, List.take_left] at hx
  exact hall x hx

/-- How many characters there are between the places is not said. -/
theorem takes (h : Crosses caseless set c d) : Takes 0 c d := by
  rcases h with ⟨taken, hrest, hpassed, _⟩
  exact ⟨taken, hrest, hpassed, Nat.zero_le _⟩

end Crosses

end Cursor

open Cursor

/-! ## Repetitions of one set -/

theorem takes_step? {caseless : Bool} {s : CharSet} {c d : Cursor}
    (h : step? caseless s c = some d) : Takes 1 c d := by
  rcases c with ⟨rest, passed⟩
  unfold step? at h
  cases rest with
  | nil => cases h
  | cons x rest =>
    dsimp only at h
    split at h
    · rw [← Option.some.inj h]
      exact Takes.one x rest passed
    · cases h

/-- A walk goes over characters of its set. -/
theorem crosses_walkOnto {caseless : Bool} {set : CharSet} {counts : Counts} {d : Cursor}
    (rest : List Char) : ∀ (count : Nat) (done : List Cursor) (passed : Nat),
      d ∈ walkOnto caseless set counts count done passed rest →
        d ∈ done ∨ Crosses caseless set ⟨rest, passed⟩ d := by
  -- The walk puts the place where it is in front of those it has been to, so each of them is
  -- looked at once, and what lies between it and the beginning was accepted.
  induction rest with
  | nil =>
    intro count done passed h
    rcases List.mem_cons.1 h with rfl | h
    · exact Or.inr (Crosses.refl _)
    · exact Or.inl h
  | cons x rest ih =>
    intro count done passed h
    have hstop : d ∈ (⟨x :: rest, passed⟩ :: done : List Cursor) →
        d ∈ done ∨ Crosses caseless set ⟨x :: rest, passed⟩ d := by
      intro hmem
      rcases List.mem_cons.1 hmem with rfl | hmem
      · exact Or.inr (Crosses.refl _)
      · exact Or.inl hmem
    rw [walkOnto] at h
    split at h
    · next hmore =>
      rw [Bool.and_eq_true] at hmore
      rcases ih _ _ _ h with hmem | hcrosses
      · exact hstop hmem
      · exact Or.inr (hcrosses.cons hmore.2)
    · exact hstop h

/-- The last place that a walk comes to, and those in front of it, lie behind its beginning. -/
theorem takes_walkOnto {caseless : Bool} {s : CharSet} {counts : Counts} {d : Cursor}
    (rest : List Char) (count : Nat) (done : List Cursor) (passed : Nat)
    (h : d ∈ walkOnto caseless s counts count done passed rest) :
    d ∈ done ∨ Takes 0 ⟨rest, passed⟩ d := by
  rcases crosses_walkOnto rest count done passed h with hmem | hcrosses
  · exact Or.inl hmem
  · exact Or.inr hcrosses.takes

theorem takes_walk {caseless : Bool} {s : CharSet} {counts : Counts} {c d : Cursor}
    (h : d ∈ walk caseless s counts c) : Takes counts.least c d := by
  unfold walk at h
  have hle := List.all_eq_true.1 List.all_takeWhile d h
  have hmem := (List.takeWhile_sublist _).mem h
  rcases takes_walkOnto c.rest 0 [] c.passed hmem with hnil | htakes
  · cases hnil
  · exact htakes.of_passed_le (of_decide_eq_true hle)

/-! ## Orders -/

theorem mem_of_mem_first {e : Ends} {d : Cursor} (h : d ∈ e.first.toList) : d ∈ e.toList := by
  cases e with
  | none => cases h
  | some c more =>
    rw [Ends.first, Ends.toList_one, List.mem_singleton] at h
    rw [h, Ends.toList_some]
    exact List.mem_cons_self

theorem mem_of_mem_order {mode : Mode} {places : List Cursor} {d : Cursor}
    (h : d ∈ (mode.order places).toList) : d ∈ places := by
  cases mode with
  | greedy => rwa [Mode.order, Ends.toList_ofList] at h
  | reluctant => rwa [Mode.order, Ends.toList_ofList, List.mem_reverse] at h
  | possessive =>
    have hmem := mem_of_mem_first h
    rwa [Ends.toList_ofList] at hmem

theorem mem_of_mem_distinct {d : Cursor} (e : Ends) : ∀ seen : Std.HashSet Nat,
    d ∈ (e.distinct seen).toList → d ∈ e.toList := by
  induction e with
  | none => exact fun _ h => h
  | some c more ih =>
    intro seen h
    rw [Ends.distinct] at h
    split at h
    · exact List.mem_cons_of_mem _ (ih () _ h)
    · rcases List.mem_cons.1 h with rfl | h
      · exact List.mem_cons_self
      · exact List.mem_cons_of_mem _ (ih () _ h)

/-! ## Other repetitions -/

/-- What a task stands for, when each round takes so many characters: the rounds so far lie
    between the place where the repetition began and the place of the task. -/
def Task.Sound (round : Nat) (counts : Counts) (a : Cursor) : Task → Prop
  | .enter count c => Takes (count * round) a c
  | .resume count c more => Takes (count * round) a c ∧ ∀ d ∈ (more ()).toList, Takes round c d
  | .stop c => Takes (counts.least * round) a c

section Repetition

variable {part : Cursor → Ends} {round : Nat} {counts : Counts} {a c d : Cursor}

theorem settled_le (counts : Counts) (count : Nat) : counts.settled count ≤ count := by
  unfold Counts.settled
  split
  · exact Nat.min_le_right _ _
  · exact Nat.le_refl _

/-- After one more round, the task that follows is sound. -/
theorem sound_nextTask {count : Nat} (hc : Takes (count * round) a c) (hd : Takes round c d) :
    (nextTask counts count c d).Sound round counts a := by
  have htakes : Takes ((count + 1) * round) a d := by
    rw [Nat.add_mul, Nat.one_mul]
    exact hc.trans hd
  unfold nextTask
  split
  · -- Enough rounds were made, and this one is the last.
    rename_i hlast
    rw [Bool.and_eq_true] at hlast
    have hle : counts.least ≤ count := of_decide_eq_true hlast.1
    exact htakes.mono (Nat.mul_le_mul_right round (by omega))
  · exact htakes.mono (Nat.mul_le_mul_right round (settled_le counts (count + 1)))

/-- The tasks at the beginning of a round are sound. -/
theorem sound_roundTasks (hpart : ∀ c d, d ∈ (part c).toList → Takes round c d)
    (reluctant : Bool) {count : Nat} (hc : Takes (count * round) a c) :
    ∀ task ∈ roundTasks part counts reluctant count c, task.Sound round counts a := by
  have hmore : ∀ task ∈ if counts.allowsMore count then
      [Task.resume count c fun _ => (part c).distinct ∅] else [], task.Sound round counts a := by
    intro task htask
    split at htask
    · rw [List.mem_singleton.1 htask]
      exact ⟨hc, fun d hd => hpart c d (mem_of_mem_distinct _ _ hd)⟩
    · cases htask
  have hstop : ∀ task ∈ if counts.least ≤ count then [Task.stop c] else [],
      task.Sound round counts a := by
    intro task htask
    split at htask
    · rename_i hle
      rw [List.mem_singleton.1 htask]
      exact hc.mono (Nat.mul_le_mul_right round hle)
    · cases htask
  intro task htask
  -- A mode only decides which of the two is tried first.
  unfold roundTasks at htask
  cases reluctant with
  | false =>
    rcases List.mem_append.1 htask with h | h
    · exact hmore task h
    · exact hstop task h
  | true =>
    rcases List.mem_append.1 htask with h | h
    · exact hstop task h
    · exact hmore task h

/-- Working on sound tasks comes only to places behind the least number of rounds. -/
theorem takes_work (hpart : ∀ c d, d ∈ (part c).toList → Takes round c d) (reluctant : Bool)
    (steps : Nat) : ∀ (entered : Std.HashSet (Nat × Nat)) (tasks : List Task),
      (∀ task ∈ tasks, task.Sound round counts a) →
      d ∈ (work part counts reluctant steps entered tasks).toList →
        Takes (counts.least * round) a d := by
  -- The induction is on the steps left. Each takes the first task away and may put sound ones
  -- in its place, and what it comes to is the place of a task that stops.
  induction steps with
  | zero =>
    intro entered tasks hsound h
    rw [work] at h
    cases h
  | succ steps ih =>
    intro entered tasks hsound h
    cases tasks with
    | nil =>
      rw [work] at h
      cases h
    | cons task tasks =>
      have hrest : ∀ task ∈ tasks, task.Sound round counts a := fun task htask =>
        hsound task (List.mem_cons_of_mem _ htask)
      have htask := hsound task List.mem_cons_self
      cases task with
      | stop c =>
        rw [work, Ends.toList_some, List.mem_cons] at h
        rcases h with rfl | h
        · exact htask
        · exact ih entered tasks hrest h
      | enter count c =>
        rw [work] at h
        split at h
        · exact ih entered tasks hrest h
        · refine ih _ _ ?_ h
          intro task hmem
          rcases List.mem_append.1 hmem with hround | hmem
          · exact sound_roundTasks hpart reluctant htask task hround
          · exact hrest task hmem
      | resume count c more =>
        rw [work] at h
        cases hends : more () with
        | none =>
          rw [hends] at h
          exact ih entered tasks hrest h
        | some e others =>
          rw [hends] at h
          rcases htask with ⟨hc, hmore⟩
          rw [hends, Ends.toList_some] at hmore
          refine ih _ _ ?_ h
          intro task hmem
          rcases List.mem_cons.1 hmem with rfl | hmem
          · exact sound_nextTask hc (hmore e List.mem_cons_self)
          · rcases List.mem_cons.1 hmem with rfl | hmem
            · exact ⟨hc, fun d hd => hmore d (List.mem_cons_of_mem _ hd)⟩
            · exact hrest task hmem

theorem takes_repetition (hpart : ∀ c d, d ∈ (part c).toList → Takes round c d) {bound : Nat}
    (h : d ∈ (repetition part counts bound a).toList) : Takes (counts.least * round) a d := by
  have hbegin : ∀ task ∈ [Task.enter 0 a], task.Sound round counts a := by
    intro task htask
    rw [List.mem_singleton.1 htask]
    exact (Takes.refl a).mono (by omega)
  unfold repetition at h
  dsimp only at h
  split at h
  · exact takes_work hpart _ _ _ _ hbegin h
  · exact takes_work hpart _ _ _ _ hbegin h
  · exact takes_work hpart _ _ _ _ hbegin (mem_of_mem_first h)

end Repetition

/-! ## All expressions -/

/-- The least number of characters that a match takes, as far as the expression tells. -/
def shortest : Regex → Nat
  | empty => 0
  | one _ _ => 1
  | seq r s => r.shortest + s.shortest
  | alt r s => min r.shortest s.shortest
  | many counts r => counts.least * r.shortest
  | look _ _ => 0
  | atomic r => r.shortest
  | group r => r.shortest
  | start => 0
  | finish => 0

/-- A repetition of one set has its own way to its ends. -/
theorem ends_many_cases (bound : Nat) (counts : Counts) (r : Regex) (c : Cursor) :
    (∃ caseless s, r = one caseless s ∧
      ends bound (many counts r) c = counts.mode.order (walk caseless s counts c)) ∨
    ends bound (many counts r) c = repetition (ends bound r) counts bound c := by
  cases r with
  | one caseless s => exact Or.inl ⟨caseless, s, rfl, rfl⟩
  | _ => exact Or.inr rfl

/-- A match reaches to a later place, and takes at least what its expression tells. -/
theorem takes_ends (bound : Nat) (r : Regex) : ∀ c d : Cursor,
    d ∈ (ends bound r c).toList → Takes r.shortest c d := by
  -- What only looks at a place stays there.
  have hstay : ∀ (found : Prop) [Decidable found] (c d : Cursor),
      d ∈ (if found then Ends.one c else Ends.none).toList → Takes 0 c d := by
    intro found _ c d h
    split at h
    · rw [List.mem_singleton.1 h]
      exact Takes.refl c
    · cases h
  induction r with
  | empty =>
    intro c d h
    rw [List.mem_singleton.1 h]
    exact Takes.refl c
  | one caseless s =>
    intro c d h
    rw [ends] at h
    cases hstep : step? caseless s c with
    | none =>
      rw [hstep] at h
      cases h
    | some e =>
      rw [hstep] at h
      rw [List.mem_singleton.1 h]
      exact takes_step? hstep
  | seq r s ihr ihs =>
    intro c d h
    rw [ends, Ends.toList_bind, List.mem_flatMap] at h
    rcases h with ⟨e, he, hd⟩
    exact (ihr c e he).trans (ihs e d hd)
  | alt r s ihr ihs =>
    intro c d h
    rw [ends, Ends.toList_append, List.mem_append] at h
    rcases h with h | h
    · exact (ihr c d h).mono (Nat.min_le_left _ _)
    · exact (ihs c d h).mono (Nat.min_le_right _ _)
  | many counts r ih =>
    intro c d h
    rcases ends_many_cases bound counts r c with ⟨caseless, s, rfl, hends⟩ | hends
    · rw [hends] at h
      exact (takes_walk (mem_of_mem_order h)).mono (Nat.le_of_eq (Nat.mul_one _))
    · rw [hends] at h
      exact takes_repetition ih h
  | look wanted r _ =>
    intro c d h
    exact hstay _ c d h
  | atomic r ih =>
    intro c d h
    exact ih c d (mem_of_mem_first h)
  | group r ih =>
    intro c d h
    exact ih c d h
  | start =>
    intro c d h
    exact hstay _ c d h
  | finish =>
    intro c d h
    exact hstay _ c d h

end Regex

end Subword
