import Mathlib.Data.List.Forall2
import Subword.Proofs.Descriptor.Ends

/-!
# Templates

A template lists what goes around a sequence: special tokens in front of it, the
sequence itself, and special tokens behind it. A tokenizer has one token for the
start and one for the end, so of a longer template it keeps two: the last token
in front of the sequence and the first one behind it, which are the ones that
stand next to the sequence.

An end that is the empty text does not count as decided. So a token with an empty
name gives way to the next one behind it.

## Main definitions

* `Json.PutsToken`, `Json.PutsSequence`: The two kinds of items.
* `Json.HasTemplate`: A document whose post-processor is a template.
* `Wrapping.nearestEnd`: The token that is kept of those behind the sequence.

## Theorems

* `Wrapping.aroundItems_template`: What a template puts around a sequence.
* `Wrapping.ofComponents?_template`: The wrapping of a document with a template.
-/

namespace Subword

/-- An item of a template that puts a special token. -/
def Json.PutsToken (item : Json) (name : String) : Prop :=
  ∃ fields token, item = .obj fields ∧ "Sequence" ∉ fields.map Prod.fst ∧
    fields.lookup "SpecialToken" = some token ∧ token.get "id" = .str name

/-- An item of a template that puts the sequence. -/
def Json.PutsSequence (item : Json) : Prop :=
  ∃ fields, item = .obj fields ∧ "Sequence" ∈ fields.map Prod.fst

/-- A document whose post-processor, by itself or among others in sequences, is a template with
    the given tokens in front of the sequence and behind it. -/
structure Json.HasTemplate (document : Json) (front back : List String) : Prop where
  template : ∃ before template after fronts sequence backs,
    Component.leaves (document.get "post_processor") = before ++ template :: after ∧
    (∀ component ∈ before, ¬ Component.Wraps component) ∧
    Component.type? template = some "TemplateProcessing" ∧
    template.get "single" = .arr (fronts ++ sequence :: backs) ∧
    List.Forall₂ Json.PutsToken fronts front ∧ sequence.PutsSequence ∧
    List.Forall₂ Json.PutsToken backs back

namespace Wrapping

/-- The value that names a token, null for none. -/
def nameValue : Option String → Json
  | none => .null
  | some name => .str name

/-- The token that is kept of those behind the sequence: the first one whose name is not empty,
    or else the first one. -/
def nearestEnd (names : List String) : Option String :=
  (names.find? fun name => !name.isEmpty).or names.head?

/-- The token that is kept is one of those there are. -/
theorem mem_of_nearestEnd {names : List String} {name : String}
    (h : nearestEnd names = some name) : name ∈ names := by
  rcases Option.or_eq_some_iff.1 h with hfind | ⟨_, hhead⟩
  · exact List.mem_of_find?_eq_some hfind
  · exact List.mem_of_head? hhead

/-! ## Items -/

theorem putsId_of_putsToken {item : Json} {name : String} (h : item.PutsToken name) :
    item.PutsId (.str name) := by
  rcases h with ⟨fields, token, rfl, hnone, htoken, hid⟩
  refine ⟨Bool.eq_false_iff.2 fun h => ?_, token, htoken, hid⟩
  rcases List.any_eq_true.1 h with ⟨field, hfield, hname⟩
  exact hnone (List.mem_map.2 ⟨field, hfield, of_decide_eq_true hname⟩)

theorem mentions_of_putsSequence {item : Json} (h : item.PutsSequence) :
    item.mentions "Sequence" = true := by
  rcases h with ⟨fields, rfl, hmem⟩
  rcases List.mem_map.1 hmem with ⟨field, hfield, hname⟩
  exact List.any_eq_true.2 ⟨field, hfield, decide_eq_true hname⟩

/-- Items that put tokens put their names, and none of them puts the sequence. -/
theorem putIds_of_putsTokens {items : List Json} {names : List String}
    (h : List.Forall₂ Json.PutsToken items names) :
    (∀ item ∈ items, item.mentions "Sequence" = false) ∧
      Json.PutIds items (names.map Json.str) := by
  induction h with
  | nil => exact ⟨fun item hmem => absurd hmem List.not_mem_nil, .nil⟩
  | cons hitem _ ih =>
    have hputs := putsId_of_putsToken hitem
    exact ⟨List.forall_mem_cons.2 ⟨hputs.1, ih.1⟩, .token hputs ih.2⟩

theorem lastOf_names (names : List String) :
    lastOf (names.map Json.str) = nameValue names.getLast? := by
  rw [lastOf, List.getLast?_map]
  cases names.getLast? <;> rfl

theorem nearestOf_names (names : List String) :
    nearestOf (names.map Json.str) = nameValue (nearestEnd names) := by
  have hfind : (names.map Json.str).find? Json.holds
      = (names.find? fun name => !name.isEmpty).map Json.str := List.find?_map ..
  rw [nearestOf, hfind, lastOf_names, nearestEnd]
  cases hfound : names.find? fun name => !name.isEmpty with
  | some name => rfl
  | none =>
    -- All names are empty, so it makes no difference which one is kept.
    have hempty : ∀ name ∈ names, name = "" := by
      intro name hname
      have hnot := List.find?_eq_none.1 hfound name hname
      rw [Bool.not_eq_true', Bool.not_eq_false] at hnot
      exact String.isEmpty_iff.1 hnot
    rw [Option.map_none, Option.getD_none, Option.none_or]
    cases names with
    | nil => rfl
    | cons name names =>
      have hlast := List.getLast?_eq_some_getLast (List.cons_ne_nil name names)
      rw [hlast, List.head?_cons, hempty _ (List.getLast_mem (List.cons_ne_nil name names)),
        hempty name List.mem_cons_self]

/-! ## The whole template -/

/-- What a template puts around a sequence: the two tokens next to it. -/
theorem aroundItems_template {fronts backs : List Json} {sequence : Json}
    {front back : List String} (hfront : List.Forall₂ Json.PutsToken fronts front)
    (hsequence : sequence.PutsSequence) (hback : List.Forall₂ Json.PutsToken backs back) :
    AroundItems (fronts ++ sequence :: backs)
      ⟨nameValue front.getLast?, nameValue (nearestEnd back)⟩ := by
  rw [← lastOf_names, ← nearestOf_names]
  exact .both (putIds_of_putsTokens hfront).1 (mentions_of_putsSequence hsequence)
    (putIds_of_putsTokens hfront).2 (putIds_of_putsTokens hback).2

/-- The wrapping of a document with a template. -/
theorem ofComponents?_template {document : Json} {front back : List String}
    (h : document.HasTemplate front back) :
    ofComponents? (Component.leaves (document.get "post_processor"))
      = some ⟨nameValue front.getLast?, nameValue (nearestEnd back)⟩ := by
  rcases h.template with ⟨before, template, after, fronts, sequence, backs, hleaves, hbefore,
    htype, hsingle, hfront, hsequence, hback⟩
  have hitems : (template.get "single").items = fronts ++ sequence :: backs := by
    rw [hsingle]
    rfl
  rw [hleaves]
  refine statedBy_iff.1 (.template hbefore htype ?_)
  rw [hitems]
  exact aroundItems_template hfront hsequence hback

end Wrapping

end Subword
