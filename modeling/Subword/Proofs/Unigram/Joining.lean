import Subword.Proofs.Text.Utf8
import Subword.Proofs.Unigram.Best

/-!
# Joining the tokens of a segmentation

Markers stand for white space, so what comes back from the tokens of a text is
the text with a space for each of its white space characters and markers. The
marker that was put in front of it goes away again, and takes the place of a
space if there was one.

The invariant of joining says which text a state stands for: what is done, and
the characters whose bytes are held back. Bytes come in whole characters here,
one unknown character at a time, so holding them back any longer changes
nothing. The one step that is different is the first: it drops the marker in
front, which is why the marker must not be spelled in bytes.

## Main definitions

* `Unigram.blanked`: A text as it comes back.
* `Unigram.Joining.StandsFor`: The text that a state of joining stands for.
* `Unigram.Legible`: The tokens of a step that can be put together again.

## Theorems

* `Unigram.exists_mark`: The marker in front of a text.
* `Unigram.Joining.StandsFor.run`: The tokens of some steps add their text.
* `Unigram.Joining.StandsFor.content`: The tokens of a text add it as it comes back.
* `Unigram.join_eq`: The text of the tokens of a text between special tokens.
-/

namespace Subword

namespace Unigram

/-! ## Spaces for markers -/

/-- A text with spaces for markers. -/
def spaced (s : List Char) : List Char := s.map fun c => if c = marker then ' ' else c

/-- A text as it comes back: with spaces for white space and markers, and without the first of
    them if it is in front and a marker goes there. -/
def blanked (dummyPrefix : Bool) (s : List Char) : List Char :=
  let text := s.map fun c => if Text.isSpace c || c = marker then ' ' else c
  if dummyPrefix && text.head? = some ' ' then text.drop 1 else text

theorem spaced_append (s t : List Char) : spaced (s ++ t) = spaced s ++ spaced t :=
  List.map_append

theorem spaced_marker_cons (s : List Char) : spaced (marker :: s) = ' ' :: spaced s := by
  rw [spaced, List.map_cons, if_pos rfl]
  rfl

theorem spaced_of_ne {c : Char} (h : c ≠ marker) (s : List Char) :
    spaced (c :: s) = c :: spaced s := by
  rw [spaced, List.map_cons, if_neg h]
  rfl

/-- Markers for white space become spaces like it. -/
theorem spaced_marked (s : List Char) :
    spaced (s.map fun c => if Text.isSpace c then marker else c)
      = s.map fun c => if Text.isSpace c || c = marker then ' ' else c := by
  rw [spaced, List.map_map]
  apply List.map_congr_left
  intro c _
  by_cases hspace : Text.isSpace c = true
  · simp only [Function.comp_apply, hspace, if_true, Bool.true_or]
  · simp only [Function.comp_apply, hspace, Bool.false_eq_true, if_false, Bool.false_or,
      decide_eq_true_eq]

variable {S : Type} {u : Unigram S}

/-- Without a marker in front, a marked text has spaces where the text will have them. -/
theorem spaced_mark (h : u.dummyPrefix = false) (s : List Char) :
    spaced (u.mark s) = blanked false s := by
  cases s with
  | nil => rfl
  | cons c rest =>
    have hmark : u.mark (c :: rest)
        = (c :: rest).map fun c => if Text.isSpace c then marker else c := by
      simp only [mark, List.map_cons, h, Bool.false_and, Bool.false_eq_true, if_false]
    rw [hmark, spaced_marked]
    rfl

/-- Otherwise a text that is not empty begins with a marker, behind which it has them. -/
theorem exists_mark (h : u.dummyPrefix = true) {s : List Char} (hne : s ≠ []) :
    ∃ rest, u.mark s = marker :: rest ∧ spaced rest = blanked true s := by
  cases s with
  | nil => exact absurd rfl hne
  | cons c rest =>
    have hmarked := spaced_marked (c :: rest)
    rw [List.map_cons] at hmarked
    by_cases hc : (if Text.isSpace c then marker else c) = marker
    · -- The marker in front is the first character itself, which stands for a space.
      refine ⟨rest.map fun c => if Text.isSpace c then marker else c, ?_, ?_⟩
      · simp only [mark, List.map_cons, hc, h, ne_eq, not_true_eq_false, decide_false,
          Bool.and_false, Bool.false_eq_true, if_false]
      · rw [hc, spaced_marker_cons] at hmarked
        rw [blanked, ← hmarked]
        rfl
    · -- A marker is put in front, and the text does not begin with a space.
      refine ⟨(c :: rest).map fun c => if Text.isSpace c then marker else c, ?_, ?_⟩
      · simp only [mark, List.map_cons, hc, h, ne_eq, not_false_eq_true, decide_true,
          Bool.and_true, if_true]
      · have hspace : Text.isSpace c = false := by
          by_contra hspace
          rw [Bool.not_eq_false] at hspace
          rw [if_pos hspace] at hc
          exact hc rfl
        have hne : c ≠ ' ' := by
          rintro rfl
          exact absurd hspace (by decide)
        have hhead : (spaced ((c :: rest).map fun c =>
            if Text.isSpace c then marker else c)).head? ≠ some ' ' := by
          rw [List.map_cons, spaced_of_ne hc, hspace, List.head?_cons]
          intro heq
          exact hne (Option.some.inj heq)
        rw [spaced_marked] at hhead ⊢
        simp only [blanked, hhead, decide_false, Bool.and_false, Bool.false_eq_true, if_false]

/-! ## Joining tokens -/

/-- The text that a state of joining stands for: what is done, and the characters whose bytes are
    held back. -/
def Joining.StandsFor (j : Joining) (s : List Char) (atStart : Bool) : Prop :=
  ∃ front back, s = front ++ back ∧
    j = ⟨front.reverse, (Text.Utf8.encode back).reverse, atStart⟩

theorem standsFor_done (s : List Char) (atStart : Bool) :
    Joining.StandsFor ⟨s.reverse, [], atStart⟩ s atStart :=
  ⟨s, [], (List.append_nil s).symm, rfl⟩

/-- Special tokens go behind what is done, and the marker in front is still to be dropped. -/
theorem foldl_special (tokens : List String) (atStart : Bool) : ∀ done : List Char,
    (tokens.map fun token => (token, true)).foldl joinStep ⟨done, [], atStart⟩
      = ⟨(String.join tokens).toList.reverse ++ done, [], atStart⟩ := by
  induction tokens with
  | nil => exact fun done => rfl
  | cons token rest ih =>
    intro done
    have hstep : joinStep ⟨done, [], atStart⟩ (token, true)
        = ⟨token.toList.reverseAux done, [], atStart⟩ := rfl
    rw [List.map_cons, List.foldl_cons, hstep, ih, String.join_cons, String.toList_append]
    simp only [List.reverseAux_eq, List.reverse_append, List.append_assoc]

/-- The bytes of tokens are held back. -/
theorem foldl_bytes {v : Vocabulary} {bytes : List UInt8} {tokens : List String}
    (h : List.Forall₂ (SpellsByte v) bytes tokens) : ∀ j : Joining,
    (tokens.map fun token => (token, false)).foldl joinStep j
      = ⟨j.done, bytes.reverse ++ j.bytes, j.atStart⟩ := by
  induction h with
  | nil => exact fun j => rfl
  | @cons b token bytes tokens hb _ ih =>
    intro j
    have hstep : joinStep j (token, false) = ⟨j.done, b :: j.bytes, j.atStart⟩ := by
      simp only [joinStep, Bool.false_eq_true, if_false, hb.1]
    rw [List.map_cons, List.foldl_cons, hstep, ih, List.reverse_cons, List.append_assoc,
      List.singleton_append]

/-- The marker in front of a text is dropped. -/
theorem joinStep_front (done : List Char) {s : List Char}
    (hbyte : byteOf? (String.ofList (marker :: s)) = none) :
    joinStep ⟨done, [], true⟩ (String.ofList (marker :: s), false)
      = ⟨(spaced s).reverse ++ done, [], false⟩ := by
  have htext : pieceText (String.ofList (marker :: s)) = ' ' :: spaced s := by
    rw [pieceText, String.toList_ofList]
    exact spaced_marker_cons s
  simp only [joinStep, Bool.false_eq_true, if_false, hbyte, htext, Joining.flush,
    List.isEmpty_nil, if_true, List.head?_cons, Bool.true_and, decide_true, List.drop_succ_cons,
    List.drop_zero, List.reverseAux_eq]

namespace Joining.StandsFor

variable {j : Joining} {s : List Char} {atStart : Bool}

/-- Ending the run of bytes of a state leaves its text done. -/
theorem flush_eq (h : StandsFor j s atStart) : ∃ after, j.flush = ⟨s.reverse, [], after⟩ ∧
    (atStart = false → after = false) := by
  rcases h with ⟨front, back, rfl, rfl⟩
  unfold flush
  cases hback : Text.Utf8.encode back with
  | nil =>
    -- Only the empty text has no bytes, so there is nothing to end.
    have hnil : back = [] := by
      rw [← Text.Utf8.decodeLossy_encode back, hback]
      rfl
    rw [hnil, List.append_nil]
    exact ⟨atStart, rfl, id⟩
  | cons b bytes =>
    have hne : (b :: bytes).reverse.isEmpty = false := by
      rw [List.isEmpty_reverse, List.isEmpty_cons]
    rw [if_neg (by rw [hne]; exact Bool.false_ne_true)]
    dsimp only
    rw [List.reverse_reverse, ← hback, Text.Utf8.decodeLossy_encode, List.reverseAux_eq,
      ← List.reverse_append]
    exact ⟨false, rfl, fun _ => rfl⟩

/-- A piece adds its text behind the first one. -/
theorem piece (h : StandsFor j s false) {token : String} (hbyte : byteOf? token = none) :
    StandsFor (joinStep j (token, false)) (s ++ spaced token.toList) false := by
  rcases h.flush_eq with ⟨after, hflush, hafter⟩
  have hstep : joinStep j (token, false)
      = ⟨(s ++ spaced token.toList).reverse, [], false⟩ := by
    simp only [joinStep, Bool.false_eq_true, if_false, hbyte, hflush, hafter rfl, Bool.false_and,
      List.reverseAux_eq, List.reverse_append]
    rfl
  rw [hstep]
  exact standsFor_done _ _

/-- The tokens for the bytes of a text add it. -/
theorem bytes (h : StandsFor j s atStart) {v : Vocabulary} {text : List Char}
    {tokens : List String}
    (hspell : List.Forall₂ (SpellsByte v) (Text.Utf8.encode text) tokens) :
    StandsFor ((tokens.map fun token => (token, false)).foldl joinStep j) (s ++ text)
      atStart := by
  rcases h with ⟨front, back, rfl, rfl⟩
  refine ⟨front, back ++ text, List.append_assoc .., ?_⟩
  rw [foldl_bytes hspell, Text.Utf8.encode_append, List.reverse_append]

/-- The text of a state with special tokens behind it. -/
theorem flush_special (h : StandsFor j s atStart) (tokens : List String) :
    ((tokens.map fun token => (token, true)).foldl joinStep j).flush.done.reverse
      = s ++ (String.join tokens).toList := by
  rcases h.flush_eq with ⟨after, hflush, _⟩
  cases tokens with
  | nil =>
    rw [List.map_nil, List.foldl_nil, hflush, List.reverse_reverse]
    exact (List.append_nil s).symm
  | cons token rest =>
    -- The first special token ends the run, which the others find ended.
    have hstep : joinStep j (token, true) = joinStep j.flush (token, true) := by
      rw [hflush]
      unfold joinStep
      rw [hflush]
      rfl
    have hall := foldl_special (token :: rest) after s.reverse
    rw [List.map_cons, List.foldl_cons, ← hflush, ← hstep] at hall
    rw [List.map_cons, List.foldl_cons, hall]
    show ((String.join (token :: rest)).toList.reverse ++ s.reverse).reverse = _
    rw [List.reverse_append, List.reverse_reverse, List.reverse_reverse]

end Joining.StandsFor

/-! ## Steps -/

variable {v : Vocabulary}

/-- The tokens of a step that can be put together again: a piece, or the bytes of a character
    that is no marker. -/
inductive Legible (v : Vocabulary) : Segmentation.Step → List String → Prop
  | piece (s : List Char) (id : Nat) (get : v.get? (String.ofList s) = some id)
      (matched : isPiece v id (String.ofList s) = true) :
      Legible v (.piece s) [String.ofList s]
  | bytes (c : Char) (tokens : List String) (ne : c ≠ marker)
      (spell : List.Forall₂ (SpellsByte v) (Text.Utf8.encode [c]) tokens) :
      Legible v (.unknown [c]) tokens

theorem byteOf?_of_isPiece {id : Nat} {token : String} (h : isPiece v id token = true) :
    byteOf? token = none := by
  unfold isPiece at h
  rw [Bool.and_eq_true, Option.isNone_iff_eq_none] at h
  exact h.2

/-- None of the tokens of a step is special. -/
theorem Legible.exists_id {step : Segmentation.Step} {tokens : List String}
    (h : Legible v step tokens) {token : String} (hmem : token ∈ tokens) :
    ∃ id, v.token? id = some token ∧ v.isSpecial id = false := by
  cases h with
  | piece s id hget hpiece =>
    rw [List.mem_singleton.1 hmem]
    unfold isPiece at hpiece
    simp only [Bool.and_eq_true, Bool.not_eq_true'] at hpiece
    exact ⟨id, Vocabulary.get?_eq_some_iff.1 hget, hpiece.1.1⟩
  | bytes c tokens hne hspell =>
    rcases List.forall₂_iff_get.1 hspell with ⟨hlength, hall⟩
    rcases List.mem_iff_get.1 hmem with ⟨i, rfl⟩
    exact (hall i (by omega) i.isLt).2

theorem exists_id_of_legible {path : List Segmentation.Step} {parts : List (List String)}
    (h : List.Forall₂ (Legible v) path parts) {token : String} (hmem : token ∈ parts.flatten) :
    ∃ id, v.token? id = some token ∧ v.isSpecial id = false := by
  induction h with
  | nil => exact absurd hmem List.not_mem_nil
  | cons hfirst _ ih =>
    rw [List.flatten_cons, List.mem_append] at hmem
    rcases hmem with hmem | hmem
    · exact hfirst.exists_id hmem
    · exact ih hmem

/-- A step has a text. -/
theorem Legible.text_ne_nil {step : Segmentation.Step} {tokens : List String}
    (h : Legible v step tokens) : step.text ≠ [] := by
  cases h with
  | piece s id hget hpiece =>
    intro hs
    have hnil : s = [] := hs
    have hempty : (String.ofList []).isEmpty = true := rfl
    rw [hnil, isPiece, hempty] at hpiece
    simp only [Bool.not_true, Bool.and_false, Bool.false_and, Bool.false_eq_true] at hpiece
  | bytes c tokens hne hspell => exact List.cons_ne_nil c []

/-- The step in front of a marked text is a piece, since the marker has no bytes. -/
theorem Legible.eq_piece {step : Segmentation.Step} {tokens : List String}
    (h : Legible v step tokens) {back rest : List Char}
    (hfront : step.text ++ back = marker :: rest) :
    ∃ s, tokens = [String.ofList (marker :: s)] ∧ s ++ back = rest ∧
      byteOf? (String.ofList (marker :: s)) = none := by
  have hne := h.text_ne_nil
  cases h with
  | piece s id hget hpiece =>
    cases s with
    | nil => exact absurd rfl hne
    | cons c s =>
      rcases List.cons.inj hfront with ⟨rfl, hrest⟩
      exact ⟨s, rfl, hrest, byteOf?_of_isPiece hpiece⟩
  | bytes c tokens hc hspell => exact absurd (List.cons.inj hfront).1 hc

namespace Joining.StandsFor

variable {j : Joining} {s : List Char}

/-- The tokens of a step add its text. -/
theorem step (h : StandsFor j s false) {step : Segmentation.Step} {tokens : List String}
    (hstep : Legible v step tokens) :
    StandsFor ((tokens.map fun token => (token, false)).foldl joinStep j)
      (s ++ spaced step.text) false := by
  cases hstep with
  | piece piece id hget hpiece =>
    have hadded := h.piece (byteOf?_of_isPiece hpiece)
    rw [String.toList_ofList] at hadded
    exact hadded
  | bytes c tokens hne hspell =>
    have htext : spaced (Segmentation.Step.unknown [c]).text = [c] := spaced_of_ne hne []
    rw [htext]
    exact h.bytes hspell

/-- The tokens of some steps add their text. -/
theorem run {path : List Segmentation.Step} {parts : List (List String)}
    (hpath : List.Forall₂ (Legible v) path parts) : ∀ {j : Joining} {s : List Char},
      StandsFor j s false →
        StandsFor ((parts.flatten.map fun token => (token, false)).foldl joinStep j)
          (s ++ spaced (Segmentation.spelled path)) false := by
  induction hpath with
  | nil =>
    intro j s h
    rw [Segmentation.spelled_nil, spaced, List.map_nil, List.append_nil]
    exact h
  | cons hfirst _ ih =>
    intro j s h
    rw [List.flatten_cons, List.map_append, List.foldl_append, Segmentation.spelled_cons,
      spaced_append, ← List.append_assoc]
    exact ih (h.step hfirst)

/-- The tokens of a text add it as it comes back. -/
theorem content {u : Unigram S} {text : List Char} {path : List Segmentation.Step}
    {parts : List (List String)} (hpath : List.Forall₂ (Legible v) path parts)
    (hspelled : Segmentation.spelled path = u.mark text) (s : List Char) :
    ∃ after, StandsFor ((parts.flatten.map fun token => (token, false)).foldl joinStep
      ⟨s.reverse, [], u.dummyPrefix⟩) (s ++ blanked u.dummyPrefix text) after := by
  cases hdummy : u.dummyPrefix with
  | false =>
    have hrun := run hpath (standsFor_done s false)
    rw [hspelled, spaced_mark hdummy] at hrun
    exact ⟨false, hrun⟩
  | true =>
    by_cases htext : text = []
    · rw [htext] at hspelled ⊢
      cases hpath with
      | nil => exact ⟨true, (List.append_nil s).symm ▸ standsFor_done s true⟩
      | cons hfirst _ =>
        rw [Segmentation.spelled_cons] at hspelled
        exact absurd (List.append_eq_nil_iff.1 hspelled).1 hfirst.text_ne_nil
    · -- The first step begins with the marker, so it is a piece, and it drops the marker.
      rcases exists_mark hdummy htext with ⟨rest, hmark, hrest⟩
      rw [hmark] at hspelled
      cases hpath with
      | nil => exact absurd hspelled.symm (List.cons_ne_nil marker rest)
      | @cons step tokens path parts hfirst hpath =>
        rw [Segmentation.spelled_cons] at hspelled
        rcases hfirst.eq_piece hspelled with ⟨piece, rfl, hpiece, hbyte⟩
        have hstart := standsFor_done (s ++ spaced piece) false
        rw [List.reverse_append, ← joinStep_front s.reverse hbyte] at hstart
        have hrun := run hpath hstart
        rw [List.append_assoc, ← spaced_append, hpiece, hrest] at hrun
        exact ⟨false, hrun⟩

end Joining.StandsFor

/-- The text of the tokens of a text between special tokens. -/
theorem join_eq {u : Unigram S} {text : List Char} {path : List Segmentation.Step}
    {parts : List (List String)} (hpath : List.Forall₂ (Legible v) path parts)
    (hspelled : Segmentation.spelled path = u.mark text) (front back : List String) :
    u.join ((front.map fun token => (token, true)) ++
        (parts.flatten.map fun token => (token, false)) ++ back.map fun token => (token, true))
      = String.join front ++ String.ofList (blanked u.dummyPrefix text) ++ String.join back := by
  rcases Joining.StandsFor.content hpath hspelled (String.join front).toList with ⟨after, h⟩
  rw [join, List.foldl_append, List.foldl_append, foldl_special, List.append_nil,
    h.flush_special, String.ofList_append, String.ofList_append, String.ofList_toList,
    String.ofList_toList]

end Unigram

end Subword
