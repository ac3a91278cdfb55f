import Subword.Json.Basic

/-!
# Components

A descriptor names the steps of a tokenizer as components. A component is an
object with a type. A sequence is an object too, of a type of its own, and
holds further components in lists, which can be sequences again. Reading a
descriptor looks at the components in order and not at how they nest.

What is no object is no component and is passed over. A sequence without lists
has no components, and neither has a list without objects. But a number or a flag
cannot stand in the place of a list: flattening goes as far as there and stops.

## Main definitions

* `Component.flatten`: The components of a node, in order, or where flattening stops.
* `Component.leaves`: The components that are found.

## Theorems

* `Component.flatten_sequence`: A sequence has the components of its items, in order.
* `Component.holdsItems_of_flatten`: Flattening goes through a sequence only if its fields hold
  items.
-/

namespace Subword

namespace Component

/-- The fields of a sequence that hold its items, in the order in which they count. -/
def itemFields : List String := ["normalizers", "pretokenizers", "processors", "decoders"]

/-- Whether an object with given fields is a sequence. -/
def isSequence (fields : List (String × Json)) : Bool :=
  ((fields.lookup "type").bind Json.str?) = some "Sequence"

/-- Where flattening stops: behind some components, at a value of a kind that has no items. -/
structure Stop where
  before : List Json
  kind : String

/-- The components of two parts, one behind the other. -/
def joined : Except Stop (List Json) → Except Stop (List Json) → Except Stop (List Json)
  | .error stop, _ => .error stop
  | .ok front, .error stop => .error { stop with before := front ++ stop.before }
  | .ok front, .ok back => .ok (front ++ back)

mutual

/-- The components of a node, in order. -/
def flatten : Json → Except Stop (List Json)
  | .obj fields =>
    if isSequence fields then
      joined (flattenAt "normalizers" fields) <| joined (flattenAt "pretokenizers" fields) <|
        joined (flattenAt "processors" fields) (flattenAt "decoders" fields)
    else .ok [.obj fields]
  | _ => .ok []

/-- The components in the list that stands in a field. -/
def flattenAt (key : String) : List (String × Json) → Except Stop (List Json)
  | [] => .ok []
  | (name, value) :: rest => if key = name then flattenValue value else flattenAt key rest

/-- The components in a list. Other values hold none, if they can stand for items. -/
def flattenValue : Json → Except Stop (List Json)
  | .arr items => flattenItems items
  | value => if value.standsForItems then .ok [] else .error ⟨[], value.kind⟩

/-- The components of some nodes, in order. -/
def flattenItems : List Json → Except Stop (List Json)
  | [] => .ok []
  | item :: rest => joined (flatten item) (flattenItems rest)

end

/-- The components that are found in a node: all of them, or those in front of the place where
    flattening stops. -/
def leaves (node : Json) : List Json :=
  match flatten node with
  | .ok components => components
  | .error stop => stop.before

theorem leaves_of_flatten {node : Json} {components : List Json}
    (h : flatten node = .ok components) : leaves node = components := by
  rw [leaves, h]

/-- The nodes that stand in a field of an object. -/
def itemsAt (key : String) (fields : List (String × Json)) : List Json :=
  match fields.lookup key with
  | some (.arr items) => items
  | _ => []

/-- The items of a sequence: those in its first field for items, then those in the next. -/
def sequenceItems (fields : List (String × Json)) : List Json :=
  itemFields.flatMap fun key => itemsAt key fields

/-- Whether all fields for items can stand for some. -/
def holdsItems (fields : List (String × Json)) : Bool :=
  itemFields.all fun key => ((Json.obj fields).get key).standsForItems

theorem flattenAt_eq (key : String) (fields : List (String × Json)) :
    flattenAt key fields = flattenValue ((Json.obj fields).get key) := by
  rw [Json.get, Json.get?]
  induction fields with
  | nil => rfl
  | cons field rest ih =>
    obtain ⟨name, value⟩ := field
    by_cases h : key = name
    · subst h
      simp only [flattenAt, List.lookup_cons, beq_self_eq_true, if_pos, Option.getD_some]
    · have hne : (key == name) = false := beq_eq_false_iff_ne.2 h
      simp only [flattenAt, List.lookup_cons, h, hne, if_false]
      exact ih

/-- What stands for items has those that are in a list. -/
theorem flattenAt_of_standsForItems {key : String} {fields : List (String × Json)}
    (h : ((Json.obj fields).get key).standsForItems = true) :
    flattenAt key fields = flattenItems (itemsAt key fields) := by
  rw [flattenAt_eq]
  rw [Json.get, Json.get?] at h ⊢
  rw [itemsAt]
  cases hvalue : fields.lookup key with
  | none => rfl
  | some value =>
    rw [hvalue, Option.getD_some] at h
    cases value with
    | arr items => rfl
    | _ => simp [flattenValue, flattenItems, h]

theorem flattenAt_of_not_standsForItems {key : String} {fields : List (String × Json)}
    (h : ((Json.obj fields).get key).standsForItems = false) :
    ∃ stop, flattenAt key fields = .error stop := by
  rw [flattenAt_eq]
  generalize (Json.obj fields).get key = value at h
  cases value with
  | arr items => simp [Json.standsForItems, Json.hasItems] at h
  | _ => simp [flattenValue, h]

theorem flattenItems_append (front back : List Json) :
    flattenItems (front ++ back) = joined (flattenItems front) (flattenItems back) := by
  induction front with
  | nil =>
    rw [List.nil_append, flattenItems]
    cases flattenItems back <;> rfl
  | cons item rest ih =>
    rw [List.cons_append, flattenItems, flattenItems, ih]
    cases flatten item with
    | error stop => rfl
    | ok first =>
      cases flattenItems rest with
      | error stop => rfl
      | ok second => cases flattenItems back <;> simp [joined]

theorem joined_eq_ok {front back : Except Stop (List Json)} {components : List Json}
    (h : joined front back = .ok components) :
    ∃ first second, front = .ok first ∧ back = .ok second ∧ components = first ++ second := by
  cases front with
  | error stop => simp [joined] at h
  | ok first =>
    cases back with
    | error stop => simp [joined] at h
    | ok second => exact ⟨first, second, rfl, rfl, by simpa [joined] using h.symm⟩

/-- A sequence has the components of its items, in order. -/
theorem flatten_sequence {fields : List (String × Json)} (h : isSequence fields = true)
    (hitems : holdsItems fields = true) :
    flatten (.obj fields) = flattenItems (sequenceItems fields) := by
  simp only [holdsItems, itemFields, List.all_cons, List.all_nil, Bool.and_true,
    Bool.and_eq_true] at hitems
  obtain ⟨hnormalizers, hpretokenizers, hprocessors, hdecoders⟩ := hitems
  simp only [sequenceItems, itemFields, List.flatMap_cons, List.flatMap_nil, List.append_nil,
    flattenItems_append]
  rw [flatten, if_pos h, flattenAt_of_standsForItems hnormalizers,
    flattenAt_of_standsForItems hpretokenizers, flattenAt_of_standsForItems hprocessors,
    flattenAt_of_standsForItems hdecoders]

/-- Flattening goes through a sequence only if all its fields for items can stand for some. -/
theorem holdsItems_of_flatten {fields : List (String × Json)} (h : isSequence fields = true)
    {components : List Json} (hflatten : flatten (.obj fields) = .ok components) :
    holdsItems fields = true := by
  rw [flatten, if_pos h] at hflatten
  obtain ⟨_, _, hnormalizers, hrest, -⟩ := joined_eq_ok hflatten
  obtain ⟨_, _, hpretokenizers, hrest, -⟩ := joined_eq_ok hrest
  obtain ⟨_, _, hprocessors, hdecoders, -⟩ := joined_eq_ok hrest
  have hstands {key : String} {found : List Json} (hfound : flattenAt key fields = .ok found) :
      ((Json.obj fields).get key).standsForItems = true := by
    cases hholds : ((Json.obj fields).get key).standsForItems with
    | true => rfl
    | false =>
      obtain ⟨stop, hstop⟩ := flattenAt_of_not_standsForItems hholds
      cases hstop.symm.trans hfound
  simp [holdsItems, itemFields, hstands hnormalizers, hstands hpretokenizers,
    hstands hprocessors, hstands hdecoders]

/-- The type that a component states. -/
def type? (component : Json) : Option String := (component.get "type").str?

/-- Whether a component is of a given type. -/
def isA (type : String) (component : Json) : Bool := type? component = some type

end Component

end Subword
