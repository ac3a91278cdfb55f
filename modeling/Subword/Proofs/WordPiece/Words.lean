import Subword.Proofs.Regex.Taken
import Subword.Proofs.SplitPattern
import Subword.Proofs.WordPiece.Pieces

/-!
# What pieces are made of

A word is an ideograph or a punctuation mark, or it is a run of characters that
are neither these nor white space. That holds of every part of a word as well,
so it holds of every piece but for the mark in front. Whatever a text is, its
tokens are of this form, or they are the unknown token.

## Main definitions

* `WordPiece.isWordPart`: Whether some characters can be a part of a word.
* `WordPiece.Spells`: The tokens that a text can have.

## Theorems

* `WordPiece.isWordPart_of_mem_words`: What the words of a text are made of.
* `WordPiece.not_spells`: Tokens that no text has.
* `WordPiece.spells_of_mem_segment`: What the tokens of a text are made of.
-/

namespace Subword

namespace WordPiece

open Regex

variable {w : WordPiece} {v : Vocabulary} {s part : List Char} {token : String}

/-- The characters that are words of their own. -/
def lone : CharSet :=
  .joined [.ofClass .han, SplitPattern.Named.punctuation]

/-- Whether some characters can be a word or a part of one. -/
def isWordPart (s : List Char) : Bool :=
  !s.isEmpty && (s.length = 1 && s.all (lone.contains ·) ||
    s.all (SplitPattern.Named.plain.contains ·))

/-- Whether a token is one that some text can have: a part of a word, or one with the mark in
    front. -/
def Spells (w : WordPiece) (token : String) : Prop :=
  ∃ part, isWordPart part = true ∧
    (token = String.ofList part ∨ token = w.mark ++ String.ofList part)

theorem isWordPart_iff : isWordPart s = true ↔ s ≠ [] ∧
    ((s.length = 1 ∧ ∀ c ∈ s, lone.contains c = true) ∨
      ∀ c ∈ s, SplitPattern.Named.plain.contains c = true) := by
  simp only [isWordPart, Bool.and_eq_true, Bool.or_eq_true, Bool.not_eq_true',
    List.isEmpty_eq_false_iff, decide_eq_true_eq, List.all_eq_true]

/-- A part of a part of a word is one itself. -/
theorem isWordPart_of_infix (h : isWordPart s = true) (hpart : part <:+: s) (hne : part ≠ []) :
    isWordPart part = true := by
  rw [isWordPart_iff] at h ⊢
  refine ⟨hne, ?_⟩
  rcases h.2 with ⟨hlength, hlone⟩ | hplain
  · have hle := hpart.length_le
    have hpos := List.length_pos_iff.2 hne
    exact Or.inl ⟨by omega, fun c hc => hlone c (hpart.subset hc)⟩
  · exact Or.inr fun c hc => hplain c (hpart.subset hc)

/-- The expression for words has two alternatives. -/
theorem alternatives_bert : SplitPattern.Named.bert.regex.alternatives
    = [ofSet lone, many .plus (ofSet SplitPattern.Named.plain)] :=
  rfl

/-- The words of a text are made of such characters. -/
theorem isWordPart_of_mem_words {word : List Char} (h : word ∈ words s) :
    isWordPart word = true := by
  have hshort : 1 ≤ SplitPattern.Named.bert.regex.shortest := by decide
  have hfound : word ∈ SplitPattern.Named.bert.regex.findAll s := h
  rcases mem_findAll hfound with ⟨c, d, hd, rfl⟩
  have htakes : Cursor.Takes 1 c d := (takes_ends s.length _ c d hd).mono hshort
  have hne := htakes.between_ne_nil
  rw [isWordPart_iff]
  refine ⟨hne, ?_⟩
  rcases exists_alternative _ hd with ⟨a, ha, hend⟩
  -- One of them takes a single character, the other as many as there are of its set.
  rw [alternatives_bert, List.mem_cons, List.mem_singleton] at ha
  rcases ha with rfl | rfl
  · rcases crosses_ends_one hend with ⟨hcrosses, hpassed⟩
    have hpos := List.length_pos_iff.2 hne
    have hle : (c.between d).length ≤ 1 := by
      rw [Cursor.between, hpassed, Nat.add_sub_cancel_left]
      exact List.length_take_le 1 c.rest
    refine Or.inl ⟨by omega, ?_⟩
    intro x hx
    rw [← CharSet.accepts_false]
    exact hcrosses.accepts_of_mem_between hx
  · refine Or.inr ?_
    intro x hx
    rw [← CharSet.accepts_false]
    exact (crosses_ends_many hend).accepts_of_mem_between hx

/-- No text has a token that is no part of a word and does not begin with the mark. -/
theorem not_spells (hpart : isWordPart token.toList = false)
    (hmark : ¬ w.mark.toList <+: token.toList) : ¬ w.Spells token := by
  rintro ⟨part, hword, rfl | rfl⟩
  · rw [String.toList_ofList, hword] at hpart
    cases hpart
  · rw [String.toList_append] at hmark
    exact hmark (List.prefix_append _ _)

/-- What stands between two places of a word is a part of it. -/
theorem isWordPart_extract {word : List Char} (h : isWordPart word = true) {start stop : Nat}
    (hlt : start < stop) (hle : stop ≤ word.length) :
    isWordPart (word.extract start stop) = true := by
  have hne : word.extract start stop ≠ [] := by
    rw [List.extract_eq_take_drop, ← List.length_pos_iff, List.length_take, List.length_drop]
    omega
  have hpart : word.extract start stop <:+: word := by
    rw [List.extract_eq_take_drop]
    exact (List.take_prefix _ _).isInfix.trans (List.drop_suffix _ _).isInfix
  exact isWordPart_of_infix h hpart hne

/-- A piece of a word is a part of it, but for the mark. -/
theorem spells_pieceAt {word : List Char} (h : isWordPart word = true) {start stop : Nat}
    (hlt : start < stop) (hle : stop ≤ word.length) : w.Spells (w.pieceAt word start stop) := by
  refine ⟨word.extract start stop, isWordPart_extract h hlt hle, ?_⟩
  rw [pieceAt, markAt]
  split
  · exact Or.inl String.empty_append
  · exact Or.inr rfl

/-- The tokens of a text are made of parts of words, or they are the unknown token. -/
theorem spells_of_mem_segment (h : token ∈ w.segment v s) :
    token = v.unkToken ∨ w.Spells token := by
  rcases List.mem_flatMap.1 h with ⟨word, hword, htoken⟩
  rcases mem_splitWord htoken with hunknown | ⟨start, stop, hlongest, rfl⟩
  · exact Or.inl hunknown
  · exact Or.inr (spells_pieceAt (isWordPart_of_mem_words hword) hlongest.lt hlongest.le)

end WordPiece

end Subword
