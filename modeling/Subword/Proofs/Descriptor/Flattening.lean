import Subword.Descriptor
import Subword.Proofs.Vocabulary

/-!
# Trees of components

How components nest is not part of what a descriptor says. Flattening is given
here as a relation with one case for each kind of node: what is no object holds
no component, an object that is no sequence is one, and a sequence holds what its
items hold, in the order of its four fields. A node has at most one list of
components in this sense, however deep it is, and it is the one that is computed.
It has one unless there is a value somewhere in the place of a list that can
stand for none, and that is also where the computation stops.

A descriptor looks at three nodes and only at their components. So a document in
which these nodes are put differently, with the same components in the same
order, is the same descriptor, with the same warnings. A node that is missing is
one without components, and so is a sequence without any. A sequence with a
component that only looks at bytes is neither.

## Main definitions

* `Component.Flattens`: The components of a node, in order.
* `Component.WellFormed`: A node in which all sequences hold items.
* `Descriptor.Rearranged`: Two documents with the same components.

## Theorems

* `Component.flattens_iff`: The components of a node are those that are computed.
* `Component.exists_flattens`: A well-formed node has components.
* `Descriptor.Rearranged.ofJson_eq`: Documents with the same components are one descriptor.
-/

namespace Subword

namespace Component

variable {node : Json} {items components : List Json} {fields : List (String × Json)}

mutual

/-- The components of a node, in order. -/
inductive Flattens : Json → List Json → Prop
  | none {node : Json} (other : node.isObject = false) : Flattens node []
  | component {fields : List (String × Json)} (one : isSequence fields = false) :
      Flattens (.obj fields) [.obj fields]
  | sequence {fields : List (String × Json)} {components : List Json}
      (many : isSequence fields = true) (holds : holdsItems fields = true)
      (items : FlattenAll (sequenceItems fields) components) : Flattens (.obj fields) components

/-- The components of some nodes, in order. -/
inductive FlattenAll : List Json → List Json → Prop
  | nil : FlattenAll [] []
  | cons {item : Json} {items front back : List Json} (first : Flattens item front)
      (rest : FlattenAll items back) : FlattenAll (item :: items) (front ++ back)

end

/-- A node in which all sequences hold items. -/
inductive WellFormed : Json → Prop
  | none {node : Json} (other : node.isObject = false) : WellFormed node
  | component {fields : List (String × Json)} (one : isSequence fields = false) :
      WellFormed (.obj fields)
  | sequence {fields : List (String × Json)} (many : isSequence fields = true)
      (holds : holdsItems fields = true)
      (items : ∀ item ∈ sequenceItems fields, WellFormed item) : WellFormed (.obj fields)

/-! ## The components are those that are computed -/

mutual

/-- The components of a node are computed. -/
theorem Flattens.flatten_eq : ∀ {node : Json} {components : List Json},
    Flattens node components → flatten node = .ok components
  | .obj _, _, .none other => absurd other Bool.noConfusion
  | .null, _, .none _ | .bool _, _, .none _ | .int _, _, .none _ | .float _, _, .none _
  | .str _, _, .none _ | .arr _, _, .none _ => rfl
  | .obj _, _, .component one => by
    rw [flatten, one, if_neg Bool.false_ne_true]
  | .obj _, _, .sequence many holds items => by
    rw [flatten_sequence many holds]
    exact items.flattenItems_eq

theorem FlattenAll.flattenItems_eq : ∀ {items components : List Json},
    FlattenAll items components → flattenItems items = .ok components
  | [], _, .nil => rfl
  | _ :: _, _, .cons first rest => by
    rw [flattenItems, first.flatten_eq, rest.flattenItems_eq, joined]

end

/-- Nodes have the components that are computed if each of them has. -/
theorem flattenAll_of_flattenItems (h : flattenItems items = .ok components)
    (hitems : ∀ item ∈ items, ∀ found, flatten item = .ok found → Flattens item found) :
    FlattenAll items components := by
  induction items generalizing components with
  | nil =>
    rw [flattenItems, Except.ok.injEq] at h
    rw [← h]
    exact .nil
  | cons item rest ih =>
    rw [flattenItems] at h
    obtain ⟨front, back, hfront, hback, rfl⟩ := joined_eq_ok h
    exact .cons (hitems item List.mem_cons_self front hfront)
      (ih hback fun other hother => hitems other (List.mem_cons_of_mem _ hother))

/-- The items of a sequence are parts of it, so flattening comes to an end. -/
theorem sizeOf_lt_of_mem {item : Json} (h : item ∈ sequenceItems fields) :
    sizeOf item < sizeOf (Json.obj fields) := by
  obtain ⟨key, _, hitem⟩ := List.mem_flatMap.1 h
  unfold itemsAt at hitem
  split at hitem
  · next list hlookup =>
    have hlist := List.sizeOf_lt_of_mem hitem
    have hfields := List.sizeOf_lt_of_mem (mem_of_lookup hlookup)
    simp only [Prod.mk.sizeOf_spec, Json.arr.sizeOf_spec, Json.obj.sizeOf_spec] at hfields ⊢
    omega
  · exact absurd hitem List.not_mem_nil

/-- What is computed are the components of a node. -/
theorem flattens_of_flatten (node : Json) (components : List Json)
    (h : flatten node = .ok components) : Flattens node components :=
  match node, h with
  | .obj fields, h => by
    cases hsequence : isSequence fields with
    | false =>
      rw [flatten, hsequence, if_neg Bool.false_ne_true, Except.ok.injEq] at h
      rw [← h]
      exact .component hsequence
    | true =>
      have hholds := holdsItems_of_flatten hsequence h
      rw [flatten_sequence hsequence hholds] at h
      refine .sequence hsequence hholds (flattenAll_of_flattenItems h ?_)
      exact fun item hitem found => flattens_of_flatten item found
  | .null, h | .bool _, h | .int _, h | .float _, h | .str _, h | .arr _, h => by
    rw [flatten, Except.ok.injEq] at h
    · rw [← h]
      exact .none rfl
    · nofun
termination_by sizeOf node
decreasing_by exact sizeOf_lt_of_mem hitem

/-- A node has the components that are computed for it, whatever it is and however deep. -/
theorem flattens_iff : Flattens node components ↔ flatten node = .ok components :=
  ⟨Flattens.flatten_eq, flattens_of_flatten node components⟩

/-- The items of a sequence have components if each of them has. -/
theorem exists_flattenAll (h : ∀ item ∈ items, ∃ components, Flattens item components) :
    ∃ components, FlattenAll items components := by
  induction items with
  | nil => exact ⟨[], .nil⟩
  | cons item rest ih =>
    obtain ⟨front, hfront⟩ := h item List.mem_cons_self
    obtain ⟨back, hback⟩ := ih fun other hother => h other (List.mem_cons_of_mem _ hother)
    exact ⟨front ++ back, .cons hfront hback⟩

/-- A well-formed node has components. -/
theorem exists_flattens (h : WellFormed node) : ∃ components, Flattens node components := by
  induction h with
  | none other => exact ⟨[], .none other⟩
  | component one => exact ⟨_, .component one⟩
  | sequence many holds _ ih =>
    obtain ⟨components, hitems⟩ := exists_flattenAll ih
    exact ⟨components, .sequence many holds hitems⟩

/-- Flattening comes to an end on every node: with its components, or where the node is not
    well-formed. -/
theorem flattens_or_stop (node : Json) :
    (∃ components, Flattens node components) ∨
      ¬ WellFormed node ∧ ∃ stop, flatten node = .error stop := by
  cases hflatten : flatten node with
  | ok components => exact Or.inl ⟨components, flattens_iff.2 hflatten⟩
  | error stop =>
    refine Or.inr ⟨fun h => ?_, stop, rfl⟩
    obtain ⟨components, hcomponents⟩ := exists_flattens h
    cases hflatten.symm.trans hcomponents.flatten_eq

end Component

namespace Descriptor

open Component

variable {document other : Json}

/-- Two documents that have the same components in each of these fields, in whatever trees, and
    the same in all other fields. -/
structure Rearranged (document other : Json) : Prop where
  isObject : other.isObject = document.isObject
  same : ∀ key, key ∉ nodeFields → other.get? key = document.get? key
  components : ∀ key ∈ nodeFields, other.get key = document.get key ∨ ∃ components,
    Flattens (document.get key) components ∧ Flattens (other.get key) components

namespace Rearranged

theorem get_eq (h : Rearranged document other) (key : String) (hkey : key ∉ nodeFields) :
    other.get key = document.get key := by
  rw [Json.get, Json.get, h.same key hkey]

theorem flatten_eq (h : Rearranged document other) (key : String) (hkey : key ∈ nodeFields) :
    flatten (other.get key) = flatten (document.get key) := by
  obtain hsame | ⟨components, hdocument, hother⟩ := h.components key hkey
  · rw [hsame]
  · rw [hdocument.flatten_eq, hother.flatten_eq]

theorem leaves_eq (h : Rearranged document other) (key : String) (hkey : key ∈ nodeFields) :
    leaves (other.get key) = leaves (document.get key) := by
  rw [leaves, leaves, h.flatten_eq key hkey]

theorem flattenFault?_eq (h : Rearranged document other) (key : String)
    (hkey : key ∈ nodeFields) : flattenFault? other key = flattenFault? document key := by
  rw [flattenFault?, flattenFault?, h.flatten_eq key hkey]

/-- The two documents say the same about a tokenizer. -/
theorem assemble_eq (h : Rearranged document other) (model : Json) (added : List AddedToken) :
    assemble other model added = assemble document model added := by
  unfold assemble
  dsimp only
  rw [h.leaves_eq "normalizer" (by decide),
    h.leaves_eq "pre_tokenizer" (by decide),
    h.leaves_eq "post_processor" (by decide),
    h.get_eq "padding" (by decide), h.get_eq "truncation" (by decide)]

/-- The two documents are the same descriptor, or the same is wrong with them. -/
theorem ofJson_eq (h : Rearranged document other) (place : Option String) :
    ofJson other place = ofJson document place := by
  unfold ofJson
  dsimp only
  rw [h.isObject, h.get_eq "model" (by decide), h.get_eq "added_tokens" (by decide),
    h.flattenFault?_eq "normalizer" (by decide), h.flattenFault?_eq "pre_tokenizer" (by decide),
    h.flattenFault?_eq "post_processor" (by decide), h.leaves_eq "pre_tokenizer" (by decide)]
  simp only [h.assemble_eq]

end Rearranged

end Descriptor

end Subword
