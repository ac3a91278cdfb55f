import Subword.Descriptor.Component
import Subword.Outcome
import Subword.Text.Case

/-!
# Descriptors

A descriptor is one document that says all about a tokenizer: its model, tokens
added to the vocabulary, how text is normalised and split, what goes around a
sequence, and how long and wide encodings are.

Of each part only what bears on the three families of models is read. Casing
and splitting are settled by the last component that says something about
them, wrapping by the first. Wrapping that is not spoken of is another thing
than a wrapping of nothing: a post-processor that only trims offsets says that
nothing goes around a sequence.

Names and patterns are texts in a document that is well-formed. They are kept as
the document has them, and whoever uses one takes it for a text or for nothing.

## Main definitions

* `Descriptor`: What a descriptor says.
* `Descriptor.ofJson`: The descriptor in a document.
* `Casing.ofComponents`, `Splitting.ofComponents`, `Wrapping.ofNode?`: Its parts.
-/

namespace Subword

/-- A token that is added to the vocabulary of the model. -/
structure AddedToken where
  id : Int
  content : Json
  special : Bool

/-- What normalisation says about case and accents. -/
structure Casing where
  lowercase : Option Bool
  stripAccents : Option Bool
  deriving DecidableEq, Repr

/-- How text is split. -/
structure Splitting where
  /-- The pattern, null when none is named. -/
  pattern : Json
  byteLevel : Bool
  addPrefixSpace : Bool
  metaspace : Bool
  /-- Whether a marker goes in front of a text. -/
  metaspacePrefix : Bool

/-- The tokens around a sequence, null for none. -/
structure Wrapping where
  start : Json
  finish : Json

/-- What a descriptor says. -/
structure Descriptor where
  modelType : Json
  model : Json
  added : List AddedToken
  casing : Casing
  splitting : Splitting
  /-- What goes around a sequence, if that is spoken of. -/
  wrapping : Option Wrapping
  /-- The padding token, null when none is named. -/
  padToken : Json
  paddingSide : Option String
  /-- Whether rows are filled up to a fixed width. -/
  fixedPadding : Bool
  /-- The fixed width, if it is a positive integer. -/
  fixedLength : Option Nat
  /-- The cap on the length: an integer or a flag, and null when nothing is said. -/
  maxLength : Json
  truncationSide : Option String

/-! ## Added tokens -/

/-- The added token in an item of the list. -/
def AddedToken.ofJson (item : Json) : Except LoadFault AddedToken :=
  match item.get? "id", item.get? "content" with
  | some (.int id), some content => .ok ⟨id, content, (item.get "special").holds⟩
  | some id, some content => .error (.nonIntegerAddedId content.display id)
  | _, _ => .error (.malformedAddedToken item)

/-- The text of an added token. -/
def AddedToken.text (token : AddedToken) : String := token.content.display

/-- The items of a value, if it holds. -/
def itemsIfAny (value : Json) : List Json := if value.holds then value.items else []

/-! ## Casing -/

/-- Casing after one component more. -/
def Casing.step (casing : Casing) (component : Json) : Casing :=
  match Component.type? component with
  | some "BertNormalizer" =>
    { lowercase := some (((component.get? "lowercase").map Json.holds).getD true)
      stripAccents :=
        match component.get "strip_accents" with
        | .null => casing.stripAccents
        | value => some value.holds }
  | some "Lowercase" => { casing with lowercase := some true }
  | some "StripAccents" => { casing with stripAccents := some true }
  | _ => casing

/-- What some components say about casing. -/
def Casing.ofComponents (components : List Json) : Casing :=
  components.foldl Casing.step ⟨none, none⟩

/-! ## Splitting -/

/-- The pattern that a splitting component names. -/
def Splitting.patternIn (component : Json) : Json :=
  let pattern := component.get "pattern"
  if pattern.holds then pattern else .obj []

/-- Whether a component asks for a marker in front of a text. -/
def Splitting.wantsPrefix (component : Json) : Bool :=
  match component.get "prepend_scheme" with
  | .null => ((component.get? "add_prefix_space").map Json.holds).getD true
  | scheme => scheme.str? ≠ some "never"

/-- Splitting after one component more. -/
def Splitting.step (splitting : Splitting) (component : Json) : Splitting :=
  match Component.type? component with
  | some "Split" =>
    match (patternIn component).get? "Regex" with
    | some pattern => { splitting with pattern }
    | none => splitting
  | some "ByteLevel" =>
    { splitting with
      byteLevel := true
      addPrefixSpace := (component.get "add_prefix_space").holds }
  | some "Metaspace" =>
    { splitting with metaspace := true, metaspacePrefix := wantsPrefix component }
  | _ => splitting

/-- How some components split. -/
def Splitting.ofComponents (components : List Json) : Splitting :=
  components.foldl Splitting.step ⟨.null, false, false, false, true⟩

/-- The patterns of some components that are not regular expressions and therefore ignored. -/
def Splitting.ignored (components : List Json) : List Json :=
  ((components.filter (Component.isA "Split")).map patternIn).filter fun pattern =>
    (pattern.get? "Regex").isNone

/-! ## Wrapping -/

/-- The special token in an item of a template, if the item is one. -/
def Wrapping.tokenIn (item : Json) : Option Json :=
  (item.get? "SpecialToken").map fun token => token.get "id"

/-- A wrapping after one item of a template. The flag says whether the sequence is past. -/
def Wrapping.step (state : Bool × Wrapping) (item : Json) : Bool × Wrapping :=
  let (past, wrapping) := state
  if item.mentions "Sequence" then (true, wrapping)
  else
    match tokenIn item with
    | none => state
    | some token =>
      if past then
        (past, { wrapping with finish := if wrapping.finish.holds then wrapping.finish else token })
      else (past, { wrapping with start := token })

/-- The wrapping of a template: the last token in front of the sequence, and the first one behind
    it that is not empty. -/
def Wrapping.ofTemplate (items : List Json) : Wrapping :=
  (items.foldl Wrapping.step (false, ⟨.null, .null⟩)).2

/-- The first item of a value. -/
def firstItem (value : Json) : Json :=
  (itemsIfAny value).head?.getD .null

/-- The wrapping of the first component that states one. -/
def Wrapping.first? : List Json → Option Wrapping
  | [] => none
  | component :: rest =>
    match Component.type? component with
    | some "BertProcessing" | some "RobertaProcessing" =>
      some ⟨firstItem (component.get "cls"), firstItem (component.get "sep")⟩
    | some "TemplateProcessing" => some (ofTemplate (itemsIfAny (component.get "single")))
    | _ => first? rest

/-- The wrapping that some components state. One that only looks at bytes states that there is
    none. -/
def Wrapping.ofComponents? (components : List Json) : Option Wrapping :=
  match first? components with
  | some wrapping => some wrapping
  | none => if components.any (Component.isA "ByteLevel") then some ⟨.null, .null⟩ else none

/-! ## The whole -/

/-- The type of a model that does not state one. -/
def inferredType (model : Json) : String :=
  if (model.get? "merges").isSome then "BPE"
  else
    match model.get "vocab" with
    | .arr _ => "Unigram"
    | _ => "WordPiece"

/-- The type of a model. -/
def modelTypeOf (model : Json) : Json :=
  match model.get "type" with
  | .null => .str (inferredType model)
  | type => type

/-- A side by name. Only names count, in small letters. -/
def sideName (value : Json) : Option String :=
  value.str?.map fun s => String.ofList (Text.lower s.toList)

/-- The fixed width that padding asks for, null when it is not fixed. -/
def fixedWidth (padding : Json) : Json := (padding.get "strategy").get "Fixed"

/-- What a document with a given model says. -/
def Descriptor.assemble (document model : Json) (added : List AddedToken) : Descriptor :=
  let padding := document.get "padding"
  let truncation := document.get "truncation"
  { modelType := modelTypeOf model
    model
    added
    casing := Casing.ofComponents (Component.leaves (document.get "normalizer"))
    splitting := Splitting.ofComponents (Component.leaves (document.get "pre_tokenizer"))
    wrapping := Wrapping.ofComponents? (Component.leaves (document.get "post_processor"))
    padToken := padding.get "pad_token"
    paddingSide := sideName (padding.get "direction")
    fixedPadding :=
      match fixedWidth padding with
      | .null => false
      | _ => true
    fixedLength :=
      match fixedWidth padding with
      | .int (.ofNat (n + 1)) => some (n + 1)
      | _ => none
    maxLength :=
      match truncation.get "max_length" with
      | .int n => .int n
      | .bool b => .bool b
      | _ => .null
    truncationSide := sideName (truncation.get "direction") }

/-- The fields of a document in which there are trees of components. -/
def Descriptor.nodeFields : List String := ["normalizer", "pre_tokenizer", "post_processor"]

/-- The fault of a field in which flattening stops, if it does. -/
def Descriptor.flattenFault? (document : Json) (key : String) : Option LoadFault :=
  match Component.flatten (document.get key) with
  | .ok _ => none
  | .error stop => some (.raw (.noItems stop.kind))

/-- The descriptor in a document. The path is named in errors. -/
def Descriptor.ofJson (document : Json) (path : Option String) : Outcome Descriptor :=
  if !document.isObject then Outcome.fail (.load .notDescriptor path)
  else
    let model := document.get "model"
    if !model.isObject then Outcome.fail (.load .noModel path)
    else
      match (itemsIfAny (document.get "added_tokens")).mapM AddedToken.ofJson with
      | .error fault => Outcome.fail (.load fault path)
      | .ok added =>
        match flattenFault? document "normalizer" with
        | some fault => Outcome.fail (.load fault path)
        | none =>
          -- Warnings are given as the components come, also when there is a stop behind them.
          let components := Component.leaves (document.get "pre_tokenizer")
          let warnings := (Splitting.ignored components).map Warning.splitPatternIgnored
          match (flattenFault? document "pre_tokenizer").or
              (flattenFault? document "post_processor") with
          | some fault => ⟨.error (.load fault path), warnings⟩
          | none => ⟨.ok (assemble document model added), warnings⟩

end Subword
