import Subword.Proofs.BytePair
import Subword.Proofs.Regex.Matching

/-!
# Patterns that leave nothing out

Every character is white space, a letter, a number or a sign, and a pattern that
has an alternative for each of the four matches wherever a character is left.
In each of these alternatives something may stand in front that can be left out:
a space, or a character that begins a word. For most of them it does not matter
what it would take, since it may give it back. Where it gives nothing back, it
could have taken no letter in the first place.

For the tokens of a text it follows that they spell it. With a suffix at the
ends of words, the chunks of white space are left out and nothing else is.

## Main definitions

* `SplitPattern.Named.covering`: The named patterns that leave nothing out.

## Theorems

* `SplitPattern.Named.matches_regex`: A match starts wherever a character is left.
* `SplitPattern.Named.chunks_covers`: The chunks put together are the text.
* `SplitPattern.Named.covering_keeps`: Nothing is left out but chunks of white space.
-/

namespace Subword

theorem CharSet.accepts_false (s : CharSet) (x : Char) : s.accepts false x = s.contains x := rfl

namespace SplitPattern.Named

open Regex

/-- The named patterns that leave nothing out. -/
def covering : List Named := [gpt2, gpt4, llama3, qwen2]

theorem covering_cases {p : Named} (h : p ∈ covering) :
    p = gpt2 ∨ p = gpt4 ∨ p = llama3 ∨ p = qwen2 := by
  simpa only [covering, List.mem_cons, List.not_mem_nil, or_false] using h

/-- Every character is white space, a letter, a number or a sign. -/
theorem kind_cases (x : Char) : CharSet.spaces.accepts false x = true ∨
    CharSet.letters.accepts false x = true ∨ CharSet.numbers.accepts false x = true ∨
    sign.accepts false x = true := by
  simp only [CharSet.accepts_false]
  by_cases hspace : CharSet.spaces.contains x = true
  · exact Or.inl hspace
  · by_cases hletter : CharSet.letters.contains x = true
    · exact Or.inr (Or.inl hletter)
    · by_cases hnumber : CharSet.numbers.contains x = true
      · exact Or.inr (Or.inr (Or.inl hnumber))
      · refine Or.inr (Or.inr (Or.inr ?_))
        simp only [sign, CharSet.contains, hspace, hletter, hnumber, Bool.or_self, Bool.not_false]

/-- What begins a word is no letter. -/
theorem lead_refuses {x : Char} (h : CharSet.letters.accepts false x = true) :
    lead.accepts false x = false := by
  rw [CharSet.accepts_false] at h
  simp only [CharSet.accepts_false, lead, CharSet.contains, h, Bool.or_true, Bool.true_or,
    Bool.not_true]

section Place

variable {bound : Nat} {p : Named} {x : Char} {rest : List Char} {passed : Nat}

/-- Behind what can be left out, a repetition of a set matches where its first character is. -/
theorem matches_behind {head : Regex} {set : CharSet} {counts : Counts}
    (hhead : ⟨x :: rest, passed⟩ ∈ (ends bound head ⟨x :: rest, passed⟩).toList)
    (hx : set.accepts false x = true) (hleast : counts.least ≤ 1)
    (hmore : counts.allowsMore 0 = true) :
    Matches bound (seqs [head, many counts (ofSet set)]) ⟨x :: rest, passed⟩ :=
  Matches.seq hhead (matches_many hx hleast hmore)

/-- A space that is looked for first, and line ends behind, can both be left out. -/
theorem matches_between {set : CharSet} {counts : Counts} (hx : set.accepts false x = true)
    (hleast : counts.least ≤ 1) (hmore : counts.allowsMore 0 = true) :
    Matches bound (seqs [many .opt (ofSet (.char ' ')), many counts (ofSet set),
      many .star (ofSet (oneOf '\r' ['\n']))]) ⟨x :: rest, passed⟩ := by
  rcases matches_many hx hleast hmore with ⟨d, hd⟩
  have hbehind : d ∈ (ends bound (many .star (ofSet (oneOf '\r' ['\n']))) d).toList :=
    mem_ends_many rfl rfl d
  exact Matches.seq (mem_ends_many rfl rfl _) (Matches.seq hd ⟨d, hbehind⟩)

theorem matches_space (hp : p ∈ covering) (hx : CharSet.spaces.accepts false x = true) :
    Matches bound p.regex ⟨x :: rest, passed⟩ := by
  have hmem : ∀ p ∈ covering, many .plus (ofSet CharSet.spaces) ∈ p.regex.alternatives := by
    decide
  exact matches_of_mem_alternatives (matches_many hx (by decide) rfl) p.regex (hmem p hp)

theorem matches_letter (hp : p ∈ covering) (hx : CharSet.letters.accepts false x = true) :
    Matches bound p.regex ⟨x :: rest, passed⟩ := by
  have hgives : ∀ set : CharSet, Matches bound
      (seqs [many .opt (ofSet set), many .plus (ofSet CharSet.letters)]) ⟨x :: rest, passed⟩ :=
    fun set => matches_behind (mem_ends_many rfl rfl _) hx (by decide) rfl
  rcases covering_cases hp with rfl | rfl | rfl | rfl
  · exact matches_of_mem_alternatives (hgives (.char ' ')) _ (by decide)
  · -- What is looked for first gives nothing back, but takes no letter.
    have hhead : ⟨x :: rest, passed⟩ ∈ (ends bound (many ⟨0, some 1, .possessive⟩ (ofSet lead))
        ⟨x :: rest, passed⟩).toList := by
      rw [ends_many_refused (lead_refuses hx) rfl]
      exact List.mem_singleton_self _
    have h : Matches bound (seqs [many ⟨0, some 1, .possessive⟩ (ofSet lead),
        many .plus (ofSet CharSet.letters)]) ⟨x :: rest, passed⟩ :=
      matches_behind hhead hx (by decide) rfl
    exact matches_of_mem_alternatives h _ (by decide)
  · exact matches_of_mem_alternatives (hgives lead) _ (by decide)
  · exact matches_of_mem_alternatives (hgives lead) _ (by decide)

theorem matches_number (hp : p ∈ covering) (hx : CharSet.numbers.accepts false x = true) :
    Matches bound p.regex ⟨x :: rest, passed⟩ := by
  have hthree : Matches bound upToThree ⟨x :: rest, passed⟩ :=
    matches_many hx (by decide) (by decide)
  rcases covering_cases hp with rfl | rfl | rfl | rfl
  · have h : Matches bound (seqs [many .opt (ofSet (.char ' ')),
        many .plus (ofSet CharSet.numbers)]) ⟨x :: rest, passed⟩ :=
      matches_behind (mem_ends_many rfl rfl _) hx (by decide) rfl
    exact matches_of_mem_alternatives h _ (by decide)
  · exact matches_of_mem_alternatives hthree _ (by decide)
  · exact matches_of_mem_alternatives hthree _ (by decide)
  · have h : Matches bound (ofSet CharSet.numbers) ⟨x :: rest, passed⟩ := matches_one hx
    exact matches_of_mem_alternatives h _ (by decide)

theorem matches_sign (hp : p ∈ covering) (hx : sign.accepts false x = true) :
    Matches bound p.regex ⟨x :: rest, passed⟩ := by
  have hplus : Matches bound (seqs [many .opt (ofSet (.char ' ')), many .plus (ofSet sign),
      many .star (ofSet (oneOf '\r' ['\n']))]) ⟨x :: rest, passed⟩ :=
    matches_between hx (by decide) rfl
  rcases covering_cases hp with rfl | rfl | rfl | rfl
  · have h : Matches bound (seqs [many .opt (ofSet (.char ' ')), many .plus (ofSet sign)])
        ⟨x :: rest, passed⟩ :=
      matches_behind (mem_ends_many rfl rfl _) hx (by decide) rfl
    exact matches_of_mem_alternatives h _ (by decide)
  · have h : Matches bound (seqs [many .opt (ofSet (.char ' ')),
        many ⟨1, none, .possessive⟩ (ofSet sign), many .star (ofSet (oneOf '\r' ['\n']))])
        ⟨x :: rest, passed⟩ := matches_between hx (by decide) rfl
    exact matches_of_mem_alternatives h _ (by decide)
  · exact matches_of_mem_alternatives hplus _ (by decide)
  · exact matches_of_mem_alternatives hplus _ (by decide)

end Place

/-- A match starts wherever a character is left. -/
theorem matches_regex {p : Named} (hp : p ∈ covering) (bound : Nat) (c : Cursor)
    (hc : c.rest ≠ []) : Matches bound p.regex c := by
  rcases c with ⟨_ | ⟨x, rest⟩, passed⟩
  · exact absurd rfl hc
  · rcases kind_cases x with hx | hx | hx | hx
    · exact matches_space hp hx
    · exact matches_letter hp hx
    · exact matches_number hp hx
    · exact matches_sign hp hx

/-- No chunk is empty, and put together they are the text. -/
theorem chunks_covers {p : Named} (hp : p ∈ covering) (s : List Char) :
    (∀ chunk ∈ p.pattern.chunks s, chunk ≠ []) ∧ (p.pattern.chunks s).flatten = s := by
  have hshort : ∀ p ∈ covering, 0 < p.regex.shortest := by decide
  exact findAll_covers (gate?_regex p) (hshort p hp) (matches_regex hp) s

/-- Under these patterns no character is left out or taken twice: no match is empty, and put
    together they are the text. So the tokens of a byte pair tokenizer without a suffix spell
    the text. With a suffix they spell every chunk with the suffix behind it, but those of white
    space, which are left out. -/
theorem covering_keeps {p : Named} (hp : p ∈ covering) :
    ofSource p.source = .ok p.pattern ∧
    (∀ s, (∀ chunk ∈ p.pattern.chunks s, chunk ≠ []) ∧ (p.pattern.chunks s).flatten = s) ∧
    ∀ b : BytePair, b.pattern = p.pattern → ∀ s,
      (b.suffix? = none → (b.chunks s).flatten = b.addPrefix s ∧
        (String.join (b.segment s)).toList = b.spell (b.addPrefix s)) ∧
      (∀ suffix, b.suffix? = some suffix →
        b.chunks s = (p.pattern.chunks (b.addPrefix s)).filter (fun chunk =>
          !Text.allBlank chunk) ∧
        (String.join (b.segment s)).toList
          = (b.chunks s).flatMap fun chunk => b.spell chunk ++ suffix.toList) := by
  refine ⟨?_, chunks_covers hp, ?_⟩
  · rw [ofSource, read_source]
    rfl
  · intro b hb s
    rcases chunks_covers hp (b.addPrefix s) with ⟨hne, hflatten⟩
    refine ⟨?_, ?_⟩
    · intro hsuffix
      have hchunks : b.chunks s = p.pattern.chunks (b.addPrefix s) := by
        unfold BytePair.chunks
        simp only [hb, hsuffix, Option.isSome_none, Bool.false_eq_true, if_false]
      rw [BytePair.join_segment_flatten hsuffix, hchunks, hflatten]
      exact ⟨rfl, rfl⟩
    · intro suffix hsuffix
      have hchunks : b.chunks s = (p.pattern.chunks (b.addPrefix s)).filter
          (fun chunk => !Text.allBlank chunk) := by
        unfold BytePair.chunks
        simp only [hb, hsuffix, Option.isSome_some, if_true]
      have hending : b.ending = suffix.toList := by
        rw [BytePair.ending, hsuffix, Option.getD_some]
      refine ⟨hchunks, ?_⟩
      have hsome : ∀ chunk ∈ b.chunks s, b.suffix? = none ∨ chunk ≠ [] := by
        intro chunk hmem
        rw [hchunks] at hmem
        exact Or.inr (hne chunk (List.mem_of_mem_filter hmem))
      rw [BytePair.join_segment_chunks hsome, hending]

/-- A text with a contraction, more numbers than are taken at once and blanks in front of a line
    end, spelled by its tokens. -/
theorem covering_keeps_of_gpt4 : gpt4 ∈ covering ∧
    gpt4.pattern.chunks "Zoë's 1234  \n!".toList
      = ["Zoë".toList, "'s".toList, " ".toList, "123".toList, "4".toList, "  \n".toList,
        "!".toList] ∧
    ∃ b : BytePair, b.pattern = gpt4.pattern ∧ b.suffix? = none ∧
      b.rules.toList = [("1", "2"), ("'", "s")] ∧
      String.join (b.segment "Zoë's 1234  \n!".toList) = "Zoë's 1234  \n!" := by
  have hp : gpt4 ∈ covering := by decide
  have hpairs : [("1", "2"), ("'", "s")].Nodup := by decide
  rcases MergeRules.exists_ofPairs hpairs with ⟨rules, _, hrules⟩
  let b : BytePair := ⟨rules, gpt4.pattern, false, false, none⟩
  refine ⟨hp, by decide +kernel, b, rfl, rfl, hrules, ?_⟩
  have htokens := ((covering_keeps hp).2.2 b rfl "Zoë's 1234  \n!".toList).1 rfl
  exact String.toList_injective htokens.2

/-- With a suffix at the ends of words, white space alone has no tokens at all. -/
theorem segment_blank_of_suffix :
    let b : BytePair := ⟨⟨.empty⟩, gpt2.pattern, false, false, some "</w>"⟩
    gpt2 ∈ covering ∧ b.pattern = gpt2.pattern ∧ gpt2.pattern.chunks [' '] = [[' ']] ∧
      (b.chunks [' ']).flatten ≠ [' '] ∧ b.segment [' '] = [] :=
  ⟨by decide, rfl, by decide +kernel, by decide +kernel, by decide +kernel⟩

end SplitPattern.Named

end Subword
