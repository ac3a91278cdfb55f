import Subword.Proofs.Descriptor.Flattening

/-!
# What a post-processor puts around a sequence

The first component that says what goes around a sequence is the one that counts.
There are two kinds. A pair has one token for each side, and each is the first item
of a list. A template lists tokens and sequences, and the tokens on the two
sides of its first sequence are treated differently: in front the last one
counts, and behind the first one that is not empty, or the last one when all of
them are empty. If no component is of these kinds, one that only looks at bytes says that nothing
goes around a sequence, and without any of the three nothing is said.

All of this is stated here for the nodes of a document, without the way in which a
template is gone through, and shown to be what is read.

## Main definitions

* `Json.PutsId`, `Json.PutIds`: The tokens that items of a template put.
* `Wrapping.AroundItems`: What a template puts around a sequence.
* `Wrapping.StatedBy`: What some components put around it.
* `Json.PutsAround`: What the post-processor of a document puts around it.

## Theorems

* `Wrapping.aroundItems_iff`: What a template puts is what is read from it.
* `Wrapping.statedBy_iff`: So is what components put.
* `Json.putsAround_iff`: So is what a document puts.
-/

namespace Subword

/-! ## Tokens -/

namespace Json

/-- An item of a template that puts a token with a given value as its name. -/
def PutsId (item id : Json) : Prop :=
  item.mentions "Sequence" = false ∧ ∃ token, item.get? "SpecialToken" = some token ∧
    token.get "id" = id

/-- The names of the tokens that some items put, in order. -/
inductive PutIds : List Json → List Json → Prop
  | nil : PutIds [] []
  | token {item id : Json} {items ids : List Json} (puts : item.PutsId id)
      (rest : PutIds items ids) : PutIds (item :: items) (id :: ids)
  | other {item : Json} {items ids : List Json} (silent : ∀ id, ¬ item.PutsId id)
      (rest : PutIds items ids) : PutIds (item :: items) ids

/-- The first item of a value, null if it has none. -/
def first (value : Json) : Json := value.items.head?.getD .null

end Json

/-- A component that states what goes around a sequence. -/
def Component.Wraps (component : Json) : Prop :=
  type? component = some "BertProcessing" ∨ type? component = some "RobertaProcessing" ∨
    type? component = some "TemplateProcessing"

namespace Wrapping

/-- The token that is kept of those in front of a sequence, null for none. -/
def lastOf (ids : List Json) : Json := ids.getLast?.getD .null

/-- The token that is kept of those behind a sequence, null for none. -/
def nearestOf (ids : List Json) : Json := (ids.find? Json.holds).getD (lastOf ids)

/-- What the items of a template put around a sequence. -/
inductive AroundItems : List Json → Wrapping → Prop
  | front {items ids : List Json} (before : ∀ item ∈ items, item.mentions "Sequence" = false)
      (put : Json.PutIds items ids) : AroundItems items ⟨lastOf ids, .null⟩
  | both {fronts backs front back : List Json} {sequence : Json}
      (before : ∀ item ∈ fronts, item.mentions "Sequence" = false)
      (past : sequence.mentions "Sequence" = true) (putFront : Json.PutIds fronts front)
      (putBack : Json.PutIds backs back) :
      AroundItems (fronts ++ sequence :: backs) ⟨lastOf front, nearestOf back⟩

/-- What some components put around a sequence, if they speak of it. -/
inductive StatedBy : List Json → Option Wrapping → Prop
  | pair {before after : List Json} {component : Json}
      (silent : ∀ other ∈ before, ¬ Component.Wraps other)
      (type : Component.type? component = some "BertProcessing" ∨
        Component.type? component = some "RobertaProcessing") :
      StatedBy (before ++ component :: after)
        (some ⟨(component.get "cls").first, (component.get "sep").first⟩)
  | template {before after : List Json} {component : Json} {wrapping : Wrapping}
      (silent : ∀ other ∈ before, ¬ Component.Wraps other)
      (type : Component.type? component = some "TemplateProcessing")
      (around : AroundItems (component.get "single").items wrapping) :
      StatedBy (before ++ component :: after) (some wrapping)
  | bytes {components : List Json} (silent : ∀ other ∈ components, ¬ Component.Wraps other)
      (bytes : ∃ component ∈ components, Component.type? component = some "ByteLevel") :
      StatedBy components (some ⟨.null, .null⟩)
  | silent {components : List Json} (silent : ∀ other ∈ components, ¬ Component.Wraps other)
      (chars : ∀ component ∈ components, Component.type? component ≠ some "ByteLevel") :
      StatedBy components none

end Wrapping

/-- What the post-processor of a document puts around a sequence, if it speaks of it. -/
def Json.PutsAround (document : Json) (wrapping : Option Wrapping) : Prop :=
  ∃ components, Component.Flattens (document.get "post_processor") components ∧
    Wrapping.StatedBy components wrapping

/-! ## What is read -/

/-- There is a first member with a property, or there is none. -/
theorem exists_first_or {α : Type} (P : α → Prop) (list : List α) :
    (∃ before a after, list = before ++ a :: after ∧ (∀ other ∈ before, ¬ P other) ∧ P a) ∨
      ∀ a ∈ list, ¬ P a := by
  induction list with
  | nil => exact Or.inr fun a hmem => absurd hmem List.not_mem_nil
  | cons a rest ih =>
    by_cases ha : P a
    · exact Or.inl ⟨[], a, rest, rfl, fun other hmem => absurd hmem List.not_mem_nil, ha⟩
    rcases ih with ⟨before, found, after, rfl, hbefore, hfound⟩ | hnone
    · exact Or.inl ⟨a :: before, found, after, rfl, List.forall_mem_cons.2 ⟨ha, hbefore⟩, hfound⟩
    · exact Or.inr (List.forall_mem_cons.2 ⟨ha, hnone⟩)

/-- A value that counts as nothing has no items, so it makes no difference to ask for that. -/
theorem itemsIfAny_eq (value : Json) : itemsIfAny value = value.items := by
  unfold itemsIfAny
  split
  · rfl
  · next h =>
    cases value with
    | arr items =>
      cases items with
      | nil => rfl
      | cons item items => exact absurd rfl h
    | obj fields =>
      cases fields with
      | nil => rfl
      | cons field fields => exact absurd rfl h
    | str s =>
      have hs : s = "" := by
        rw [Json.holds, Bool.not_eq_true', Bool.not_eq_false] at h
        exact String.isEmpty_iff.1 h
      rw [hs]
      rfl
    | _ => rfl

theorem firstItem_eq (value : Json) : firstItem value = value.first := by
  rw [firstItem, itemsIfAny_eq, Json.first]

namespace Wrapping

variable {items ids components : List Json} {w : Wrapping}

/-- The name of the token that an item puts, if it puts one. -/
def put? (item : Json) : Option Json :=
  if item.mentions "Sequence" then none else tokenIn item

theorem put?_eq_some_iff {item id : Json} : put? item = some id ↔ item.PutsId id := by
  unfold put? tokenIn Json.PutsId
  cases item.mentions "Sequence" with
  | true => simp
  | false => simp [Option.map_eq_some_iff]

theorem putIds_iff : Json.PutIds items ids ↔ items.filterMap put? = ids := by
  constructor
  · intro h
    induction h with
    | nil => rfl
    | token puts _ ih => rw [List.filterMap_cons_some (put?_eq_some_iff.2 puts), ih]
    | @other item items ids silent _ ih =>
      have hnone : put? item = none :=
        Option.eq_none_iff_forall_ne_some.2 fun id hid => silent id (put?_eq_some_iff.1 hid)
      rw [List.filterMap_cons_none hnone, ih]
  · rintro rfl
    induction items with
    | nil => exact .nil
    | cons item items ih =>
      cases hput : put? item with
      | none =>
        rw [List.filterMap_cons_none hput]
        refine .other (fun id hid => ?_) ih
        cases hput.symm.trans (put?_eq_some_iff.2 hid)
      | some id =>
        rw [List.filterMap_cons_some hput]
        exact .token (put?_eq_some_iff.1 hput) ih

/-! ### Templates -/

/-- An item that is no sequence changes the start in front of the sequence, and behind it the end
    as long as that is empty. -/
theorem step_eq {item : Json} (past : Bool) (w : Wrapping) (h : item.mentions "Sequence" = false) :
    step (past, w) item = (past, match put? item with
      | none => w
      | some id =>
        if past then { w with finish := if w.finish.holds then w.finish else id }
        else { w with start := id }) := by
  rw [step, put?, h, if_neg Bool.false_ne_true, if_neg Bool.false_ne_true]
  cases tokenIn item with
  | none => rfl
  | some id => cases past <;> rfl

theorem step_sequence {item : Json} (past : Bool) (w : Wrapping)
    (h : item.mentions "Sequence" = true) : step (past, w) item = (true, w) := by
  rw [step, if_pos h]

/-- In front of the sequence the last token replaces all others. -/
theorem foldl_front (h : ∀ item ∈ items, item.mentions "Sequence" = false) (w : Wrapping) :
    items.foldl step (false, w)
      = (false, { w with start := (items.filterMap put?).getLast?.getD w.start }) := by
  induction items generalizing w with
  | nil => rfl
  | cons item items ih =>
    have hrest : ∀ other ∈ items, other.mentions "Sequence" = false :=
      fun other hother => h other (List.mem_cons_of_mem item hother)
    rw [List.foldl_cons, step_eq false w (h item List.mem_cons_self), ih hrest]
    cases hput : put? item with
    | none => rw [List.filterMap_cons_none hput]
    | some id =>
      rw [List.filterMap_cons_some hput, List.getLast?_cons, Option.getD_some]
      rfl

/-- Behind the sequence a token replaces the end as long as that is empty. -/
theorem foldl_back (w : Wrapping) : items.foldl step (true, w)
    = (true, { w with
        finish := if w.finish.holds then w.finish
          else ((items.filterMap put?).find? Json.holds).getD
            ((items.filterMap put?).getLast?.getD w.finish) }) := by
  induction items generalizing w with
  | nil =>
    rw [List.foldl_nil, List.filterMap_nil, List.find?_nil, Option.getD_none, List.getLast?_nil,
      Option.getD_none, ite_self]
  | cons item items ih =>
    rw [List.foldl_cons]
    cases hsequence : item.mentions "Sequence" with
    | true =>
      have hput : put? item = none := by rw [put?, hsequence, if_pos rfl]
      rw [step_sequence true w hsequence, ih, List.filterMap_cons_none hput]
    | false =>
      rw [step_eq true w hsequence]
      cases hput : put? item with
      | none =>
        dsimp only
        rw [ih, List.filterMap_cons_none hput]
      | some id =>
        dsimp only
        -- An end that holds is kept from here on, and an empty one waits for the next token.
        rw [if_pos rfl, ih, List.filterMap_cons_some hput, List.find?_cons, List.getLast?_cons]
        cases hfinish : w.finish.holds with
        | true => simp only [if_true, hfinish]
        | false =>
          cases hid : id.holds with
          | true => simp [hid]
          | false => simp [hid]

theorem ofTemplate_of_aroundItems (h : AroundItems items w) : ofTemplate items = w := by
  unfold ofTemplate
  cases h with
  | front before put =>
    rw [foldl_front before, putIds_iff.1 put]
    rfl
  | both before past putFront putBack =>
    rw [List.foldl_append, List.foldl_cons, foldl_front before, step_sequence _ _ past, foldl_back,
      putIds_iff.1 putFront, putIds_iff.1 putBack]
    rfl

theorem aroundItems_ofTemplate (items : List Json) : AroundItems items (ofTemplate items) := by
  have haround : ∃ w, AroundItems items w := by
    rcases exists_first_or (fun item => item.mentions "Sequence" = true) items with
      ⟨fronts, sequence, backs, rfl, hfronts, hpast⟩ | hnone
    · exact ⟨_, .both (fun item hitem => Bool.eq_false_iff.2 (hfronts item hitem)) hpast
        (putIds_iff.2 rfl) (putIds_iff.2 rfl)⟩
    · exact ⟨_, .front (fun item hitem => Bool.eq_false_iff.2 (hnone item hitem))
        (putIds_iff.2 rfl)⟩
  obtain ⟨w, hw⟩ := haround
  rwa [ofTemplate_of_aroundItems hw]

/-- What a template puts around a sequence is what is read from it. -/
theorem aroundItems_iff : AroundItems items w ↔ ofTemplate items = w :=
  ⟨ofTemplate_of_aroundItems, fun h => h ▸ aroundItems_ofTemplate items⟩

/-! ### Components -/

/-- Components that do not state a wrapping leave it to the others. -/
theorem first?_append {before rest : List Json}
    (h : ∀ component ∈ before, ¬ Component.Wraps component) :
    first? (before ++ rest) = first? rest := by
  induction before with
  | nil => rfl
  | cons component before ih =>
    have hfirst := h component List.mem_cons_self
    rw [List.cons_append, first?]
    split
    · next htype => exact absurd (Or.inl htype) hfirst
    · next htype => exact absurd (Or.inr (Or.inl htype)) hfirst
    · next htype => exact absurd (Or.inr (Or.inr htype)) hfirst
    · exact ih fun other hother => h other (List.mem_cons_of_mem component hother)

theorem first?_eq_none (h : ∀ component ∈ components, ¬ Component.Wraps component) :
    first? components = none := by
  rw [← List.append_nil components, first?_append h]
  rfl

theorem any_isA_iff {type : String} : components.any (Component.isA type) = true ↔
    ∃ component ∈ components, Component.type? component = some type := by
  simp only [List.any_eq_true, Component.isA, decide_eq_true_eq]

theorem ofComponents?_of_statedBy {found : Option Wrapping} (h : StatedBy components found) :
    ofComponents? components = found := by
  unfold ofComponents?
  cases h with
  | pair silent type =>
    rw [first?_append silent, first?]
    rw [← firstItem_eq, ← firstItem_eq]
    rcases type with htype | htype
    · rw [htype]
      rfl
    · rw [htype]
      rfl
  | template silent type around =>
    rw [first?_append silent, first?, type, itemsIfAny_eq]
    exact congrArg some (aroundItems_iff.1 around)
  | bytes silent bytes =>
    rw [first?_eq_none silent]
    exact if_pos (any_isA_iff.2 bytes)
  | silent silent chars =>
    rw [first?_eq_none silent]
    refine if_neg fun hany => ?_
    obtain ⟨component, hmem, htype⟩ := any_isA_iff.1 hany
    exact chars component hmem htype

theorem exists_statedBy (components : List Json) : ∃ found, StatedBy components found := by
  -- The first component that states a wrapping decides, and the others only when there is none.
  rcases exists_first_or Component.Wraps components with
    ⟨before, component, after, rfl, hbefore, hwraps⟩ | hnone
  · rcases hwraps with htype | htype | htype
    · exact ⟨_, .pair hbefore (Or.inl htype)⟩
    · exact ⟨_, .pair hbefore (Or.inr htype)⟩
    · exact ⟨_, .template hbefore htype (aroundItems_ofTemplate _)⟩
  · by_cases hbytes : ∃ component ∈ components, Component.type? component = some "ByteLevel"
    · exact ⟨_, .bytes hnone hbytes⟩
    · exact ⟨_, .silent hnone fun component hmem htype => hbytes ⟨component, hmem, htype⟩⟩

/-- What some components put around a sequence is what is read from them. -/
theorem statedBy_iff {found : Option Wrapping} :
    StatedBy components found ↔ ofComponents? components = found := by
  refine ⟨ofComponents?_of_statedBy, ?_⟩
  rintro rfl
  obtain ⟨found, hfound⟩ := exists_statedBy components
  rwa [ofComponents?_of_statedBy hfound]

end Wrapping

/-- What the post-processor of a document puts around a sequence is what is read from it, if it
    can be flattened. -/
theorem Json.putsAround_iff {document : Json} {components : List Json} {found : Option Wrapping}
    (h : Component.flatten (document.get "post_processor") = .ok components) :
    document.PutsAround found ↔ Wrapping.ofComponents? components = found := by
  constructor
  · rintro ⟨others, hothers, hstated⟩
    rw [Component.flattens_iff, h, Except.ok.injEq] at hothers
    rw [hothers]
    exact Wrapping.statedBy_iff.1 hstated
  · exact fun hfound => ⟨components, Component.flattens_iff.2 h, Wrapping.statedBy_iff.2 hfound⟩

end Subword
