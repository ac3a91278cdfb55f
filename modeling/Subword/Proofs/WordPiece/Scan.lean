import Subword.Proofs.Regex.Forward
import Subword.Proofs.WordPiece.Words

/-!
# Words in one pass

The words of a text are what a pattern with three alternatives matches. They are
also what is read off the text in a single pass that never goes back: white space
ends the word that has begun and is dropped, a character that stands alone ends
it and is a word itself, and any other character goes on with it.

The two agree because the first character of what is left decides which
alternative matches, and because a run of other characters ends only where one
of the first two kinds stands. That no white space stands alone has to be looked
up. A character may well be an ideograph and a punctuation mark at once, which
makes no difference to either.

The pass shows what the pattern does not: what is behind white space is read as
if it were all there is.

## Main definitions

* `WordPiece.standsAlone`: Whether a character is a word of its own.
* `WordPiece.goesOn`: Whether a character goes on with a word.
* `WordPiece.scan`: The words of a text in one pass.

## Theorems

* `WordPiece.standsAlone_of_isSpace`: No white space stands alone.
* `WordPiece.scan_run`: A run of other characters is one word.
* `WordPiece.words_eq`: The words of a text are those of the pass.
* `WordPiece.words_append_space`: White space parts a text.
* `WordPiece.words_intercalate`: Words with spaces between them are found again.
* `WordPiece.chunks_eq_scan`: What the pattern matches are the words of the pass.
-/

namespace Subword

namespace WordPiece

open Regex

variable {s rest run word : List Char} {c : Char}

/-! ## Kinds of characters -/

/-- Whether a character is a punctuation mark, or a symbol of the basic range. -/
def isMark (c : Char) : Bool :=
  (Text.laterCategory c).group = .punctuation || ('!' ≤ c && c ≤ '/') || (':' ≤ c && c ≤ '@') ||
    ('[' ≤ c && c ≤ '\x60') || ('\x7b' ≤ c && c ≤ '~')

/-- Whether a character is a word of its own: an ideograph or a mark. -/
def standsAlone (c : Char) : Bool :=
  Text.script c = ⟨"Hani"⟩ || isMark c

/-- Whether a character goes on with the word that has begun. -/
def goesOn (c : Char) : Bool :=
  !Text.isSpace c && !standsAlone c

theorem goesOn_iff : goesOn c = true ↔ Text.isSpace c = false ∧ standsAlone c = false := by
  simp only [goesOn, Bool.and_eq_true, Bool.not_eq_true']

/-- The code points of white space. -/
def spacePoints : List Nat :=
  [0x09, 0x0A, 0x0B, 0x0C, 0x0D, 0x20, 0x85, 0xA0, 0x1680, 0x2000, 0x2001, 0x2002, 0x2003, 0x2004,
    0x2005, 0x2006, 0x2007, 0x2008, 0x2009, 0x200A, 0x2028, 0x2029, 0x202F, 0x205F, 0x3000]

theorem toNat_mem_spacePoints (h : Text.isSpace c = true) : c.toNat ∈ spacePoints := by
  simp only [Text.isSpace, Bool.or_eq_true, Bool.and_eq_true, decide_eq_true_eq] at h
  simp only [spacePoints, List.mem_cons, List.not_mem_nil, or_false]
  omega

/-- No white space stands alone. -/
theorem standsAlone_of_isSpace (h : Text.isSpace c = true) : standsAlone c = false := by
  have hall : ∀ point ∈ spacePoints, standsAlone (Char.ofNat point) = false := by
    decide +kernel
  have hpoint := hall c.toNat (toNat_mem_spacePoints h)
  rwa [Char.ofNat_toNat] at hpoint

theorem isSpace_of_standsAlone (h : standsAlone c = true) : Text.isSpace c = false := by
  cases hspace : Text.isSpace c with
  | false => rfl
  | true =>
    rw [standsAlone_of_isSpace hspace] at h
    cases h

/-- A character that stands alone is what the first alternatives take. -/
theorem contains_lone (c : Char) : lone.contains c = standsAlone c := by
  have hassoc : ∀ han p a b d e : Bool,
      (han || p || a || b || d || e) = (han || (p || a || b || d || e)) := by
    decide
  have hunion : lone = .union (.union (.union (.union (.union (.ofClass .han)
      (.ofClass (.group .punctuation))) (.range '!' '/')) (.range ':' '@')) (.range '[' '\x60'))
      (.range '\x7b' '~') := rfl
  rw [hunion]
  exact hassoc _ _ _ _ _ _

/-- A character that goes on with a word is what the last alternative takes. -/
theorem contains_plain (c : Char) : SplitPattern.Named.plain.contains c = goesOn c := by
  have hassoc : ∀ space p a b d e han : Bool, (!(space || p || a || b || d || e || han))
      = (!space && !(han || (p || a || b || d || e))) := by
    decide
  have hspace : CharSet.spaces.contains c = Text.isSpace c := Bool.decide_eq_true
  rw [goesOn, ← hspace]
  exact hassoc _ _ _ _ _ _ _

/-! ## The pass -/

/-- The word that has begun, if there is one. -/
def begun (word : List Char) : List (List Char) :=
  if word.isEmpty then [] else [word]

/-- The words of the rest of a text, in front of which a word has begun. -/
def scanFrom (word : List Char) : List Char → List (List Char)
  | [] => begun word
  | c :: rest =>
    if Text.isSpace c then begun word ++ scanFrom [] rest
    else if standsAlone c then begun word ++ [c] :: scanFrom [] rest
    else scanFrom (word ++ [c]) rest

/-- The words of a text in one pass. -/
def scan (s : List Char) : List (List Char) :=
  scanFrom [] s

theorem begun_of_ne_nil (h : word ≠ []) : begun word = [word] := by
  rw [begun, if_neg]
  rwa [List.isEmpty_iff]

/-- White space ends the word that has begun. -/
theorem scanFrom_cons_space (h : Text.isSpace c = true) (word : List Char) :
    scanFrom word (c :: rest) = begun word ++ scan rest := by
  rw [scanFrom, if_pos h, scan]

/-- White space is dropped. -/
theorem scan_cons_space (h : Text.isSpace c = true) : scan (c :: rest) = scan rest :=
  scanFrom_cons_space h []

/-- A character that stands alone is a word. -/
theorem scan_cons_alone (h : standsAlone c = true) : scan (c :: rest) = [c] :: scan rest := by
  rw [scan, scanFrom, isSpace_of_standsAlone h, if_neg Bool.false_ne_true, if_pos h]
  rfl

/-- A run of other characters is put behind the word that has begun. -/
theorem scanFrom_append (hrun : ∀ c ∈ run, goesOn c = true) : ∀ word : List Char,
    scanFrom word (run ++ rest) = scanFrom (word ++ run) rest := by
  induction run with
  | nil =>
    intro word
    rw [List.nil_append, List.append_nil]
  | cons c run ih =>
    intro word
    rcases goesOn_iff.1 (hrun c List.mem_cons_self) with ⟨hspace, halone⟩
    have hmore := ih fun d hd => hrun d (List.mem_cons_of_mem c hd)
    rw [List.cons_append, scanFrom, hspace, halone, if_neg Bool.false_ne_true,
      if_neg Bool.false_ne_true, hmore, List.append_assoc, List.singleton_append]

/-- Where no such character follows, the word that has begun is whole. -/
theorem scanFrom_eq (hrest : ∀ c ∈ rest.head?, goesOn c = false) (word : List Char) :
    scanFrom word rest = begun word ++ scan rest := by
  cases rest with
  | nil =>
    have hnone : scan [] = [] := rfl
    rw [scanFrom, hnone, List.append_nil]
  | cons c rest =>
    have hstop : goesOn c = false := hrest c rfl
    cases hspace : Text.isSpace c with
    | true => rw [scanFrom_cons_space hspace, scan_cons_space hspace]
    | false =>
      cases halone : standsAlone c with
      | true =>
        rw [scanFrom, hspace, if_neg Bool.false_ne_true, if_pos halone, scan_cons_alone halone,
          scan]
      | false =>
        rw [goesOn_iff.2 ⟨hspace, halone⟩] at hstop
        cases hstop

/-- A run of other characters up to where it ends is one word. -/
theorem scan_run (hne : run ≠ []) (hrun : ∀ c ∈ run, goesOn c = true)
    (hrest : ∀ c ∈ rest.head?, goesOn c = false) : scan (run ++ rest) = run :: scan rest := by
  rw [scan, scanFrom_append hrun, List.nil_append, scanFrom_eq hrest, begun_of_ne_nil hne,
    List.singleton_append]

/-- A character that goes on with a word begins one with all that follow it. -/
theorem scan_cons_goesOn (h : goesOn c = true) : scan (c :: rest)
    = (c :: rest.takeWhile goesOn) :: scan (rest.dropWhile goesOn) := by
  have hrun : ∀ d ∈ c :: rest.takeWhile goesOn, goesOn d = true := by
    intro d hd
    rcases List.mem_cons.1 hd with rfl | hd
    · exact h
    · exact List.all_eq_true.1 List.all_takeWhile d hd
  have hrest : ∀ d ∈ (rest.dropWhile goesOn).head?, goesOn d = false := by
    intro d hd
    have hstop := List.head?_dropWhile_not goesOn rest
    rw [Option.mem_def.1 hd] at hstop
    exact hstop
  rw [← scan_run (List.cons_ne_nil _ _) hrun hrest, List.cons_append,
    List.takeWhile_append_dropWhile]

/-- White space ends the word that has begun, and what is behind it is read on its own. -/
theorem scanFrom_append_space (hspace : Text.isSpace c = true) (back : List Char) :
    ∀ word : List Char, scanFrom word (s ++ c :: back) = scanFrom word s ++ scan back := by
  induction s with
  | nil =>
    intro word
    rw [List.nil_append, scanFrom_cons_space hspace]
    rfl
  | cons d s ih =>
    intro word
    rw [List.cons_append, scanFrom, scanFrom, ih, ih]
    split
    · rw [List.append_assoc]
    · split
      · rw [List.append_assoc, List.cons_append]
      · rfl

theorem flatten_scanFrom (s : List Char) : ∀ word : List Char,
    (scanFrom word s).flatten = word ++ s.filter fun c => !Text.isSpace c := by
  have hbegun : ∀ word : List Char, (begun word).flatten = word := by
    intro word
    cases word with
    | nil => rfl
    | cons c word => rw [begun_of_ne_nil (List.cons_ne_nil c word), List.flatten_singleton]
  induction s with
  | nil =>
    intro word
    rw [scanFrom, hbegun, List.filter_nil, List.append_nil]
  | cons c s ih =>
    intro word
    rw [scanFrom]
    by_cases hspace : Text.isSpace c = true
    · rw [if_pos hspace, List.flatten_append, hbegun, ih, List.nil_append, List.filter_cons_of_neg]
      simp only [hspace, Bool.not_true, Bool.false_eq_true, not_false_eq_true]
    · have hkept : (c :: s).filter (fun c => !Text.isSpace c)
          = c :: s.filter fun c => !Text.isSpace c := by
        rw [List.filter_cons_of_pos]
        simp only [hspace, Bool.not_false]
      rw [if_neg hspace, hkept]
      split
      · rw [List.flatten_append, List.flatten_cons, hbegun, ih, List.nil_append,
          List.singleton_append]
      · rw [ih, List.append_assoc, List.singleton_append]

/-! ## The pattern -/

/-- A search for words only looks ahead. -/
theorem forward_bert : SplitPattern.Named.bert.regex.Forward :=
  ⟨by decide, by decide, SplitPattern.Named.gate?_regex .bert⟩

/-- The first character decides which word a text begins with. -/
theorem firstEnd?_bert (c : Char) (rest : List Char) :
    SplitPattern.Named.bert.regex.firstEnd? (c :: rest)
      = if standsAlone c then some ⟨rest, 1⟩
        else if goesOn c then some ⟨rest.dropWhile goesOn, (rest.takeWhile goesOn).length + 1⟩
        else none := by
  have hregex : SplitPattern.Named.bert.regex
      = alt (one false lone) (many .plus (one false SplitPattern.Named.plain)) := rfl
  have hlone : lone.accepts false = standsAlone := funext contains_lone
  have hplain : SplitPattern.Named.plain.accepts false = goesOn := funext contains_plain
  rw [hregex, firstEnd?_alt, firstEnd?_one, firstEnd?_plus, hlone, hplain]
  by_cases halone : standsAlone c = true
  · rw [if_pos halone, if_pos halone, Option.some_or]
  · rw [if_neg halone, if_neg halone, Option.none_or]

/-- A character that is in neither alternative is white space. -/
theorem isSpace_of_not (halone : ¬ standsAlone c = true) (hgoes : ¬ goesOn c = true) :
    Text.isSpace c = true := by
  rw [goesOn_iff, Bool.not_eq_true] at *
  by_contra hspace
  exact hgoes ⟨Bool.not_eq_true _ ▸ hspace, halone⟩

/-- The words of a text are those of the pass. -/
theorem words_eq (s : List Char) : words s = scan s := by
  have hwords : ∀ s, words s = SplitPattern.Named.bert.regex.findAll s := fun _ => rfl
  -- By the length of the text. A word is taken away with all its characters at once.
  induction hlength : s.length using Nat.strong_induction_on generalizing s with
  | _ length ih =>
    subst hlength
    cases s with
    | nil => rw [hwords, forward_bert.findAll_nil, scan, scanFrom, begun, if_pos List.isEmpty_nil]
    | cons c rest =>
      have hrest : words rest = scan rest := ih rest.length (Nat.lt_succ_self _) rest rfl
      have hfirst := firstEnd?_bert c rest
      by_cases halone : standsAlone c = true
      · rw [if_pos halone] at hfirst
        rw [hwords, forward_bert.findAll_of_some hfirst, ← hwords, hrest, scan_cons_alone halone]
        rfl
      · rw [if_neg halone] at hfirst
        by_cases hgoes : goesOn c = true
        · have hless : (rest.dropWhile goesOn).length < (c :: rest).length :=
            Nat.lt_succ_of_le (List.dropWhile_suffix goesOn).length_le
          have htake : (c :: rest).take ((rest.takeWhile goesOn).length + 1)
              = c :: rest.takeWhile goesOn := by
            rw [List.take_succ_cons, ← List.prefix_iff_eq_take.1 (List.takeWhile_prefix goesOn)]
          rw [if_pos hgoes] at hfirst
          rw [hwords, forward_bert.findAll_of_some hfirst, ← hwords, ih _ hless _ rfl, htake,
            scan_cons_goesOn hgoes]
        · rw [if_neg hgoes] at hfirst
          rw [hwords, forward_bert.findAll_of_none hfirst, ← hwords, hrest,
            scan_cons_space (isSpace_of_not halone hgoes)]

/-! ## Words and white space -/

/-- White space parts a text. -/
theorem words_append_space (hspace : Text.isSpace c = true) (front back : List Char) :
    words (front ++ c :: back) = words front ++ words back := by
  rw [words_eq, words_eq, words_eq]
  exact scanFrom_append_space hspace back []

/-- A word has no words in it but itself. -/
theorem words_of_isWordPart (h : isWordPart word = true) : words word = [word] := by
  rcases isWordPart_iff.1 h with ⟨hne, ⟨hlength, hlone⟩ | hplain⟩
  · obtain ⟨c, rfl⟩ := List.length_eq_one_iff.1 hlength
    have halone : standsAlone c = true := by
      rw [← contains_lone]
      exact hlone c List.mem_cons_self
    rw [words_eq, scan_cons_alone halone]
    rfl
  · have hgoes : ∀ c ∈ word, goesOn c = true := by
      intro c hc
      rw [← contains_plain]
      exact hplain c hc
    have hrun : scan (word ++ []) = word :: scan [] := by
      refine scan_run hne hgoes ?_
      intro c hc
      cases hc
    rw [List.append_nil] at hrun
    rw [words_eq, hrun]
    rfl

/-- Words with spaces between them are found again. -/
theorem words_intercalate {found : List (List Char)} (h : ∀ word ∈ found, isWordPart word = true) :
    words ([' '].intercalate found) = found := by
  induction found with
  | nil => rfl
  | cons word more ih =>
    have hword := words_of_isWordPart (h word List.mem_cons_self)
    have hmore := ih fun other hother => h other (List.mem_cons_of_mem word hother)
    cases more with
    | nil => rw [List.intercalate_singleton, hword]
    | cons next more =>
      rw [List.intercalate_cons_cons, List.append_assoc, List.singleton_append,
        words_append_space (by decide), hword, hmore, List.singleton_append]

/-- What the pattern with the text for words matches in a text are the words that one pass reads
    off it, and they are the text without its white space. -/
theorem chunks_eq_scan (s : List Char) :
    SplitPattern.ofSource SplitPattern.Named.bert.source
      = .ok SplitPattern.Named.bert.pattern ∧
    SplitPattern.Named.bert.pattern.chunks s = scan s ∧
    (SplitPattern.Named.bert.pattern.chunks s).flatten = s.filter fun c => !Text.isSpace c := by
  have hchunks : SplitPattern.Named.bert.pattern.chunks s = scan s := words_eq s
  refine ⟨?_, hchunks, ?_⟩
  · rw [SplitPattern.ofSource, SplitPattern.Named.read_source]
    rfl
  · rw [hchunks, scan, flatten_scanFrom, List.nil_append]

/-- An ideograph and a number sign stand alone, and an information separator is part of a word. -/
example : scan "a漢#\x1cb c".toList
    = ["a".toList, "漢".toList, "#".toList, "\x1cb".toList, "c".toList] := by
  decide +kernel

end WordPiece

end Subword
