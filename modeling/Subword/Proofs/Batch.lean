import Subword.Batch
import Subword.Proofs.Tokenizer

/-!
# Batches do not depend on workers

Sharing texts out among workers changes neither the batch nor the error. Each
group is encoded as it would be by itself, the groups together are the texts,
and the rows are collected by number, so the order in which tasks finish is
forgotten.

A task whose result is not asked for any more, since one before it failed, may
never finish. All others do, and this is all that is known about an order.

## Main definitions

* `Batch.Finishes`: The orders in which tasks can finish.
* `Batch.InOrder`: What a batch of texts has to come to.
* `Batch.Plan.Allows`: The orders in which the tasks of a plan can finish.

## Theorems

* `Batch.collect_finished`: Collected results are those of tasks done one after the other.
* `Batch.encodeGrouped_eq`: Texts in groups are encoded as if one after the other.
* `Batch.encode_inOrder`: A batch has the rows of its texts or the first error.
-/

namespace Subword

namespace Batch

variable {α β : Type}

/-! ## Tasks -/

/-- Whether the task for a group fails. -/
def Fails (task : List α → Outcome β) (groups : List (List α)) (number : Nat) : Prop :=
  ∃ group e, groups[number]? = some group ∧ (task group).result = .error e

/-- The orders in which tasks can finish: every task does, except that those behind one that
    failed may have been given up. -/
def Finishes (task : List α → Outcome β) (groups : List (List α)) (order : List Nat) : Prop :=
  ∀ number < groups.length, number ∈ order ∨ ∃ earlier < number, Fails task groups earlier

/-- Tasks that finish in the order in which they were given out have all finished. -/
theorem finishes_range (task : List α → Outcome β) (groups : List (List α)) :
    Finishes task groups (List.range groups.length) :=
  fun _ h => Or.inl (List.mem_range.2 h)

/-- The result of a task that finished is found by its number. -/
theorem lookup_finished {task : List α → β} {groups : List (List α)} {number : Nat}
    {group : List α} (h : groups[number]? = some group) (order : List Nat) :
    (finished task groups order).lookup number
      = if number ∈ order then some (task group) else none := by
  induction order with
  | nil => rfl
  | cons n rest ih =>
    unfold finished at ih ⊢
    by_cases hn : number = n
    · -- A task that comes twice has the same result, so the first entry will do.
      rw [← hn, List.filterMap_cons, h, Option.map_some, if_pos List.mem_cons_self]
      exact List.lookup_cons_self
    · have hmem : number ∈ n :: rest ↔ number ∈ rest := by
        rw [List.mem_cons, or_iff_right hn]
      simp only [hmem]
      rw [List.filterMap_cons]
      cases groups[n]? with
      | none => exact ih
      | some other =>
        have hne : (number == n) = false := beq_false_of_ne hn
        rw [Option.map_some]
        dsimp only
        rw [List.lookup_cons, hne]
        exact ih

/-- Collected results are those of the tasks that finished, in the order of their numbers. -/
theorem collect_eq (task : List α → β) (groups : List (List α)) (order : List Nat) :
    collect groups.length (finished task groups order)
      = (List.range groups.length).filterMap fun number =>
        if number ∈ order then groups[number]?.map task else none := by
  unfold collect
  apply List.filterMap_congr
  intro number hnumber
  have hget := List.getElem?_eq_getElem (List.mem_range.1 hnumber)
  rw [lookup_finished hget, hget, Option.map_some]

/-- A result that is missing is never asked for. -/
theorem mapM_present {task : List α → Outcome β} (groups : List (List α)) :
    ∀ present : Nat → Prop, [DecidablePred present] →
      (∀ number < groups.length, present number ∨ ∃ earlier < number, Fails task groups earlier) →
      ((List.range groups.length).filterMap fun number =>
        if present number then groups[number]?.map task else none).mapM id
        = groups.mapM task := by
  induction groups with
  | nil =>
    intro present _ _
    rfl
  | cons group rest ih =>
    intro present _ h
    -- No task is in front of the first one, so nothing can have kept it from finishing.
    have hfirst : present 0 := by
      rcases h 0 (Nat.zero_lt_succ _) with hpresent | ⟨earlier, hlt, _⟩
      · exact hpresent
      · exact absurd hlt (Nat.not_lt_zero earlier)
    rw [List.length_cons, List.range_succ_eq_map, List.filterMap_cons, if_pos hfirst,
      List.getElem?_cons_zero, Option.map_some, List.filterMap_map]
    dsimp only
    rw [List.mapM_cons, List.mapM_cons]
    cases hresult : (task group).result with
    | error e => exact Outcome.bind_of_error hresult _ _
    | ok b =>
      -- The first task did not fail, so what may be missing is behind a failure in the rest.
      have hrest : ∀ number < rest.length, present (number + 1) ∨
          ∃ earlier < number, Fails task rest earlier := by
        intro number hlt
        rcases h (number + 1) (Nat.succ_lt_succ hlt) with hpresent | ⟨earlier, hearlier, hfails⟩
        · exact Or.inl hpresent
        · cases earlier with
          | zero =>
            rcases hfails with ⟨other, e, hget, hfail⟩
            rw [List.getElem?_cons_zero, Option.some.injEq] at hget
            rw [← hget, hresult] at hfail
            cases hfail
          | succ earlier => exact Or.inr ⟨earlier, Nat.lt_of_succ_lt_succ hearlier, hfails⟩
      have heq := ih (fun number => present (number + 1)) hrest
      exact congrArg (fun rows => task group >>= fun row => rows >>= fun rows =>
        pure (row :: rows)) heq

/-- Collected results are those of tasks done one after the other. -/
theorem collect_finished {task : List α → Outcome β} {groups : List (List α)} {order : List Nat}
    (h : Finishes task groups order) :
    (collect groups.length (finished task groups order)).mapM id = groups.mapM task := by
  rw [collect_eq]
  exact mapM_present groups (· ∈ order) h

/-! ## Texts -/

variable {S : Type} [Score S] {t : Tokenizer S} {config : Option Config}
  {policy : Option SpecialPolicy} {texts : List String}

/-- Texts in groups are encoded as if one after the other. -/
theorem encodeGrouped_eq {config : Config} {workers : Nat} {order : List Nat}
    (h : Finishes (encodeSerial t config policy) (groups workers texts) order) :
    encodeGrouped t config policy workers order texts = encodeSerial t config policy texts := by
  have hgroups := Outcome.mapM_groups (fun text : String => t.encodeWith config policy text.toList)
    (groups workers texts)
  rw [flatten_groups] at hgroups
  unfold encodeGrouped
  dsimp only
  rw [collect_finished h]
  exact hgroups

theorem encodeRows_eq {config : Config} {workers : Nat} {order : List Nat} (mode : BatchMode)
    (h : Finishes (encodeSerial t config policy) (groups workers texts) order) :
    encodeRows t config policy workers mode order texts = encodeSerial t config policy texts := by
  unfold encodeRows
  split
  · exact encodeGrouped_eq h
  · rfl

/-- A cap without room is the error of every text. -/
theorem result_encode_of_room {e : Error} (h : t.room (config.getD t.config) = .error e)
    (text : String) : (t.encode text config policy).result = .error e := by
  rw [Tokenizer.result_encode_room, h]
  rfl

/-- A batch comes to what encoding its texts one after the other comes to. -/
theorem result_encodeIn (hne : texts ≠ []) {plan : Plan} {order : List Nat}
    (h : Finishes (encodeSerial t (config.getD t.config) policy) (groups plan.workers texts)
      order) :
    (encodeIn t plan order texts config policy).result
      = (texts.mapM fun text => t.encode text config policy).result.map fun rows =>
        pad (config.getD t.config) t.padId (rows.map Encoded.ids) := by
  cases texts with
  | nil => exact absurd rfl hne
  | cons text rest =>
    unfold encodeIn
    dsimp only
    rw [Outcome.result_bind, Outcome.result_ofExcept]
    cases hroom : t.room (config.getD t.config) with
    | error e =>
      -- The batch is refused before the work begins, with the error of its first text.
      have hfirst : ((text :: rest).mapM fun text => t.encode text config policy).result
          = .error e :=
        Outcome.result_mapM_eq_error (fun b hb => absurd hb List.not_mem_nil)
          (result_encode_of_room hroom text)
      rw [hfirst]
      rfl
    | ok room =>
      dsimp only [Except.bind]
      rw [Outcome.result_bind, encodeRows_eq plan.mode h]
      rfl

/-- What a batch of texts has to come to: the rows of its texts in order, filled up, or the error
    of the first text that has one. -/
structure InOrder (t : Tokenizer S) (config : Option Config) (policy : Option SpecialPolicy)
    (texts : List String) (result : Except Error (Batch Nat)) : Prop where
  of_rows : ∀ rows, List.Forall₂ (fun text row => (t.encode text config policy).result = .ok row)
    texts rows → result = .ok (pad (config.getD t.config) t.padId (rows.map Encoded.ids))
  of_error : ∀ before text after e, texts = before ++ text :: after →
    (∀ b ∈ before, ∃ row, (t.encode b config policy).result = .ok row) →
    (t.encode text config policy).result = .error e → result = .error e

/-- There is only one thing a batch can come to. -/
theorem InOrder.eq {result other : Except Error (Batch Nat)}
    (h : InOrder t config policy texts result) (ho : InOrder t config policy texts other) :
    result = other := by
  rcases Outcome.exists_results_or_error (fun text => t.encode text config policy) texts with
    ⟨rows, hrows⟩ | ⟨before, text, after, e, htexts, hbefore, herror⟩
  · rw [h.of_rows rows hrows, ho.of_rows rows hrows]
  · rw [h.of_error before text after e htexts hbefore herror,
      ho.of_error before text after e htexts hbefore herror]

theorem encodeIn_inOrder (hne : texts ≠ []) {plan : Plan} {order : List Nat}
    (h : Finishes (encodeSerial t (config.getD t.config) policy) (groups plan.workers texts)
      order) :
    InOrder t config policy texts (encodeIn t plan order texts config policy).result where
  of_rows := by
    intro rows hrows
    rw [result_encodeIn hne h, Outcome.result_mapM_eq_ok hrows]
    rfl
  of_error := by
    intro before text after e htexts hbefore herror
    rw [result_encodeIn hne h, htexts, Outcome.result_mapM_eq_error hbefore herror]
    rfl

/-- The orders in which the tasks for some texts can finish under a plan. -/
def Plan.Allows (plan : Plan) (t : Tokenizer S) (config : Option Config)
    (policy : Option SpecialPolicy) (texts : List String) (order : List Nat) : Prop :=
  Finishes (encodeSerial t (config.getD t.config) policy) (groups plan.workers texts) order

/-- A batch has the rows of its texts in order or the first error, whatever the mode, the number
    of workers and the order in which their tasks finish, and so these make no difference. -/
theorem encode_inOrder (t : Tokenizer S) (config : Option Config)
    (policy : Option SpecialPolicy) {texts : List String} (hne : texts ≠ []) (processors : Nat)
    (workers : Option Int) (mode : BatchMode) :
    ∃ plan, Plan.ofNames processors workers mode.name = .ok plan ∧ plan.mode = mode ∧
      InOrder t config policy texts (encode t plan (.many texts) config policy).result ∧
      ∀ order, plan.Allows t config policy texts order →
        InOrder t config policy texts (encodeIn t plan order texts config policy).result ∧
        ∀ other otherOrder, other.Allows t config policy texts otherOrder →
          (encodeIn t other otherOrder texts config policy).result
            = (encodeIn t plan order texts config policy).result := by
  refine ⟨⟨workers.elim (max 1 processors) fun n => max 1 n.toNat, mode⟩, ?_, rfl, ?_, ?_⟩
  · rw [Plan.ofNames, BatchMode.ofName_name]
    rfl
  · exact encodeIn_inOrder hne (finishes_range _ _)
  · intro order horder
    have hinOrder := encodeIn_inOrder hne horder
    exact ⟨hinOrder, fun other otherOrder hother => (encodeIn_inOrder hne hother).eq hinOrder⟩

/-- Three texts for two workers. The second has a special token that is refused, and the task of
    the third, which would come after it, never finishes. -/
theorem encode_inOrder_of_refused : ∃ (t : Tokenizer Float) (plan : Plan),
    Plan.ofNames 8 (some 2) "batch" = .ok plan ∧
    groups plan.workers ["a", "<unk>", "b"] = [["a"], ["<unk>"], ["b"]] ∧
    (encodeIn t plan [1, 0] ["a", "<unk>", "b"] none (some .refuse)).result
      = .error (.specialFound ["<unk>"]) := by
  have htokens : ["<unk>", "a", "b"].Nodup := by decide
  rcases Vocabulary.exists_ofUnknown htokens 0 (by decide) with ⟨v, _, hv, hspecial⟩
  have hliterals : v.literals = [("<unk>", 0)] := by
    have hids : v.specialIds = [0] := by
      rw [v.specialIds_eq, hspecial]
      exact Vocabulary.sortedIds_of_pairwise (by decide)
    rw [Vocabulary.literals, hids]
    simp only [v.token?_eq_getElem?, hv]
    rfl
  let b : BytePair := ⟨⟨.empty⟩, SplitPattern.Named.gpt2.pattern, false, false, none⟩
  let t : Tokenizer Float := ⟨v, Config.uncapped false, false, false, none, .bytePair b⟩
  have hfound : SpecialPolicy.occurring "<unk>".toList v.literals = ["<unk>"] := by
    rw [hliterals]
    decide
  have hnone : SpecialPolicy.occurring "a".toList v.literals = [] := by
    rw [hliterals]
    decide
  have hrefused : (t.encode "<unk>" none (some .refuse)).result
      = .error (.specialFound ["<unk>"]) := by
    apply Tokenizer.encode_error rfl
    rw [Tokenizer.split_refuse_error (by rw [hfound]; decide), hfound, List.mergeSort_singleton]
  have hrow : ∀ text ∈ ["a"], ∃ row, (t.encode text none (some .refuse)).result = .ok row := by
    intro text htext
    rw [List.mem_singleton.1 htext]
    exact ⟨_, Tokenizer.encode_eq rfl (Tokenizer.split_refuse hnone)⟩
  have hgroups : groups 2 ["a", "<unk>", "b"] = [["a"], ["<unk>"], ["b"]] := by decide
  have hfails : Fails (encodeSerial t t.config (some .refuse)) [["a"], ["<unk>"], ["b"]] 1 :=
    ⟨["<unk>"], _, rfl,
      Outcome.result_mapM_eq_error (fun _ h => absurd h List.not_mem_nil) hrefused⟩
  have hallows : Plan.Allows ⟨2, .batch⟩ t none (some .refuse) ["a", "<unk>", "b"] [1, 0] := by
    unfold Plan.Allows
    rw [hgroups]
    intro number hnumber
    have hcases : number = 0 ∨ number = 1 ∨ number = 2 := by
      simp only [List.length_cons, List.length_nil] at hnumber
      omega
    rcases hcases with rfl | rfl | rfl
    · exact Or.inl (by decide)
    · exact Or.inl (by decide)
    · exact Or.inr ⟨1, by decide, hfails⟩
  rcases encode_inOrder t none (some .refuse) (List.cons_ne_nil "a" ["<unk>", "b"]) 8 (some 2)
    .batch with ⟨plan, hplan, _, _, horders⟩
  have heq : plan = ⟨2, .batch⟩ := by
    rw [Plan.ofNames, BatchMode.ofName_name] at hplan
    exact (Except.ok.inj hplan).symm
  subst heq
  exact ⟨t, _, hplan, hgroups,
    (horders _ hallows).1.of_error ["a"] "<unk>" ["b"] _ rfl hrow hrefused⟩

end Batch

end Subword
