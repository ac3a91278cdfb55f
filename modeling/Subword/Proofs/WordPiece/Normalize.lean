import Subword.Proofs.Text.Parting
import Subword.Proofs.Tokenizer
import Subword.Proofs.WordPiece.Scan

/-!
# Normalised texts

Each of the three changes that a text goes through treats what is in front of a
space and what is behind it each on its own, and so does the pass over the words.
Two texts with a space between them therefore have the tokens of the one and then
those of the other, whatever marks the second one begins with.

What has been cleaned is clean: cleaning leaves every character that it has put
into a text.

## Theorems

* `WordPiece.cleanChar_fixed`: Cleaned characters are clean.
* `WordPiece.normalize_partsAt_space`: A space parts a text that is normalised.
* `WordPiece.segment_append_space`: A space parts a text that is taken apart.
* `WordPiece.tokenize_append_space`: A space parts a text that is tokenized.
-/

namespace Subword

namespace WordPiece

variable {S : Type} {t : Tokenizer S} {w : WordPiece} {v : Vocabulary} {c d : Char}

/-! ## Cleaning -/

theorem cleanChar_space : cleanChar ' ' = some ' ' := by
  decide +kernel

/-- Cleaning leaves the characters that it has put into a text. -/
theorem cleanChar_fixed (h : cleanChar c = some d) : cleanChar d = some d := by
  -- The character is a space in two of the cases, and has stayed as it was in the last.
  have hcase := h
  rw [cleanChar] at hcase
  split at hcase
  · cases hcase
  · split at hcase
    · cases hcase
      exact cleanChar_space
    · split at hcase
      · cases hcase
        exact cleanChar_space
      · cases hcase
      · cases hcase
      · cases hcase
        exact h

/-- A text of such characters is clean. -/
theorem clean_eq_self {s : List Char} (h : ∀ c ∈ s, cleanChar c = some c) : clean s = s := by
  rw [clean]
  induction s with
  | nil => rfl
  | cons c s ih =>
    rw [List.filterMap_cons_some (h c List.mem_cons_self),
      ih fun d hd => h d (List.mem_cons_of_mem c hd)]

/-! ## Spaces -/

/-- A space parts a text that is normalised. -/
theorem normalize_partsAt_space (w : WordPiece) (lowercase : Bool) :
    Text.PartsAt ' ' (w.normalize lowercase) := by
  have hclean := (Text.PartsAt.filterMap cleanChar_space).ite w.cleanText
  have hlower := Text.lower_partsAt_space.ite lowercase
  have hstrip := Text.stripAccents_partsAt_space.ite (w.stripAccents.getD lowercase)
  exact hstrip.comp (hlower.comp hclean)

/-- A space parts a text that is taken apart. -/
theorem segment_append_space (front back : List Char) :
    w.segment v (front ++ ' ' :: back) = w.segment v front ++ w.segment v back := by
  have hspace : Text.isSpace ' ' = true := by decide
  rw [segment, words_append_space hspace, List.flatMap_append]
  rfl

/-- A word that is a token is the only token of the text that it is. -/
theorem segment_word {word : List Char} (hpart : isWordPart word = true)
    (hshort : w.isTooLong word = false) (h : v.contains (String.ofList word) = true) :
    w.segment v word = [String.ofList word] := by
  rw [segment, words_of_isWordPart hpart, List.flatMap_singleton]
  exact splitWord_of_contains hshort (isWordPart_iff.1 hpart).1 h

/-- The tokens of a text in which no special tokens are looked for. -/
theorem result_tokenize [Score S] (hmodel : t.model = .wordPiece w) (hpolicy : t.policy = none)
    (text : String) (config : Option Config) : (t.tokenize text config).result
      = .ok (w.segment t.vocabulary
        (w.normalize (config.getD t.config).lowercase text.toList)) := by
  rw [Tokenizer.result_tokenize_none hpolicy, Tokenizer.segment, Tokenizer.normalize, hmodel]

/-- Two texts with a space between them have the tokens of the one and then those of the other. -/
theorem tokenize_append_space [Score S] (hmodel : t.model = .wordPiece w)
    (hpolicy : t.policy = none) (a b : String) (config : Option Config) :
    ∃ front back, (t.tokenize a config).result = .ok front ∧
      (t.tokenize b config).result = .ok back ∧
      (t.tokenize (a ++ " " ++ b) config).result = .ok (front ++ back) := by
  have htext : (a ++ " " ++ b).toList = a.toList ++ ' ' :: b.toList := by
    rw [String.toList_append, String.toList_append, List.append_assoc]
    rfl
  refine ⟨_, _, result_tokenize hmodel hpolicy a config, result_tokenize hmodel hpolicy b config,
    ?_⟩
  rw [result_tokenize hmodel hpolicy, htext, normalize_partsAt_space, segment_append_space]

/-- A sigma at the end of a word, and behind the space a mark with nothing to stand on and a sigma
    that is a word. -/
theorem tokenize_append_space_of_sigma : ∃ t : Tokenizer Float, t.model = .wordPiece {} ∧
    (t.tokenize ("ΑΣ" ++ " " ++ "\u0301Σ")).result = .ok ["ας", "σ"] := by
  have hnodup : ["[UNK]", "ας", "σ"].Nodup := by decide
  rcases Vocabulary.exists_ofUnknown hnodup 0 (by decide) with ⟨v, _, hv, _⟩
  let t : Tokenizer Float :=
    ⟨v, { Config.uncapped true with lowercase := true }, true, true, none, .wordPiece {}⟩
  have htoken : ∀ word ∈ ["ας", "σ"], v.contains word = true := by
    intro word hword
    rw [Vocabulary.contains_iff, hv]
    exact List.mem_cons_of_mem _ hword
  have hfront : segment {} v (normalize {} true "ΑΣ".toList) = ["ας"] := by
    have hnormal : normalize {} true "ΑΣ".toList = "ας".toList := by decide +kernel
    rw [hnormal]
    exact segment_word (by decide +kernel) rfl (htoken "ας" (by decide))
  have hback : segment {} v (normalize {} true "\u0301Σ".toList) = ["σ"] := by
    have hnormal : normalize {} true "\u0301Σ".toList = "σ".toList := by decide +kernel
    rw [hnormal]
    exact segment_word (by decide +kernel) rfl (htoken "σ" (by decide))
  rcases tokenize_append_space (t := t) rfl rfl "ΑΣ" "\u0301Σ" none with
    ⟨front, back, hfirst, hsecond, hboth⟩
  rw [result_tokenize (t := t) rfl rfl, Except.ok.injEq] at hfirst hsecond
  have htokens : front ++ back = ["ας", "σ"] := by
    rw [← hfirst, ← hsecond]
    exact congrArg₂ _ hfront hback
  exact ⟨t, rfl, by rw [hboth, htokens]⟩

end WordPiece

end Subword
