import Subword.Proofs.Regex.Forward
import Subword.Proofs.Regex.Taken
import Subword.Proofs.SplitPattern
import Subword.Proofs.Text.Parting
import Subword.Proofs.Text.Replace

/-!
# Chunks with a suffix behind each of them

With a suffix at the ends of words, tokens are put together by replacing every
suffix that the run spells by a space. A text may well have the characters of the
suffix in it, so this could go wrong. It does not under the pattern that leaves
white space out. There a chunk is a letter run, a number, a run of signs or one
of a few fixed texts, and none of these has the suffix in it, since the suffix has
both a letter and signs. Nor does an occurrence begin in a chunk and end behind
it, since what stands behind it is a suffix from its beginning.

No chunk has a space in it either. So what is stripped at the end is the space
for the last suffix, and a space in front of the text makes no difference.

## Main definitions

* `SplitPattern.Named.Suffixable`: Characters that a suffix can stand behind.

## Theorems

* `SplitPattern.Named.suffixable_between`: What a match of the pattern is made of.
* `SplitPattern.Named.chunks_cons_space`: A space in front makes no difference.
* `BytePair.chunks_clip`: The chunks of a text.
* `BytePair.join_segment_suffix`: The tokens of a text are joined to its chunks.
* `BytePair.decode_encode_chunks`: The chunks of a text come back from its ids.
-/

namespace Subword

namespace SplitPattern.Named

open Regex

variable {bound : Nat} {c d : Cursor} {s : List Char} {set : CharSet}

/-- The suffix at the ends of words. -/
def endMark : List Char := ['<', '/', 'w', '>']

/-- Characters that the suffix can stand behind: there is one, and neither a space nor the suffix
    is among them. -/
structure Suffixable (s : List Char) : Prop where
  ne_nil : s ≠ []
  no_space : ' ' ∉ s
  no_end : ¬ endMark <:+: s

/-- The fixed texts that are chunks of their own. -/
def fixedTexts : List String :=
  ["<|startoftext|>", "<|endoftext|>", "'s", "'t", "'re", "'ve", "'m", "'ll", "'d"]

theorem alternatives_clip : clip.regex.alternatives = fixedTexts.map word ++
    [many .plus (ofSet CharSet.letters), ofSet CharSet.numbers, many .plus (ofSet sign)] :=
  rfl

/-- Where a character of the suffix is missing, the suffix is not among the others. -/
theorem suffixable_of_notMem (hne : s ≠ []) (hspace : ' ' ∉ s) {missing : Char}
    (hend : missing ∈ endMark) (hmissing : missing ∉ s) : Suffixable s :=
  ⟨hne, hspace, fun h => hmissing (h.subset hend)⟩

/-- None of the fixed texts has a slash in it. -/
theorem suffixable_of_fixed : ∀ text ∈ fixedTexts, Suffixable text.toList := by
  have hall : ∀ text ∈ fixedTexts, text.toList ≠ [] ∧ ' ' ∉ text.toList ∧ '/' ∉ text.toList := by
    decide
  intro text htext
  rcases hall text htext with ⟨hne, hspace, hslash⟩
  exact suffixable_of_notMem hne hspace (by decide) hslash

/-- Characters of a set that has no space in it and not all of the suffix. -/
theorem suffixable_of_accepts (hne : s ≠ []) (hall : ∀ x ∈ s, set.accepts false x = true)
    (hspace : set.accepts false ' ' = false) (missing : Char) (hend : missing ∈ endMark)
    (hmissing : set.accepts false missing = false) : Suffixable s := by
  have hnot : ∀ x, set.accepts false x = false → x ∉ s := by
    intro x hx hmem
    rw [hall x hmem] at hx
    cases hx
  exact suffixable_of_notMem hne (hnot ' ' hspace) hend (hnot missing hmissing)

/-- A match of the pattern that leaves white space out has no space and no suffix in it. -/
theorem suffixable_between (h : d ∈ (ends bound clip.regex c).toList) :
    Suffixable (c.between d) := by
  have hshort : 1 ≤ clip.regex.shortest := by decide
  have hne := ((takes_ends bound _ c d h).mono hshort).between_ne_nil
  rcases exists_alternative _ h with ⟨a, ha, hend⟩
  rw [alternatives_clip, List.mem_append, List.mem_map] at ha
  rcases ha with ⟨text, htext, rfl⟩ | ha
  · rw [between_of_word hend]
    exact suffixable_of_fixed text htext
  · simp only [List.mem_cons, List.not_mem_nil, or_false] at ha
    rcases ha with rfl | rfl | rfl
    · -- A letter run has none of the signs of the suffix, and neither has a number.
      have hall := fun x => (crosses_ends_many hend).accepts_of_mem_between (x := x)
      exact suffixable_of_accepts hne hall (by decide +kernel) '<' (by decide) (by decide +kernel)
    · have hall := fun x => (crosses_ends_one hend).1.accepts_of_mem_between (x := x)
      exact suffixable_of_accepts hne hall (by decide +kernel) '<' (by decide) (by decide +kernel)
    · -- Signs do not have its letter.
      have hall := fun x => (crosses_ends_many hend).accepts_of_mem_between (x := x)
      exact suffixable_of_accepts hne hall (by decide +kernel) 'w' (by decide) (by decide +kernel)

theorem suffixable_of_mem_chunks {chunk : List Char} (h : chunk ∈ clip.pattern.chunks s) :
    Suffixable chunk := by
  rcases mem_findAll h with ⟨c, d, hd, rfl⟩
  exact suffixable_between hd

theorem forward_clip : clip.regex.Forward :=
  ⟨by decide, by decide, gate?_regex clip⟩

/-- A space in front makes no difference. -/
theorem chunks_cons_space (s : List Char) :
    clip.pattern.chunks (' ' :: s) = clip.pattern.chunks s := by
  apply forward_clip.findAll_of_none
  cases hfirst : clip.regex.firstEnd? (' ' :: s) with
  | none => rfl
  | some d =>
    -- A match there would have the space in it.
    have happend := (forward_clip.takes hfirst).between_append
    rw [firstEnd?_eq] at hfirst
    have hchunk := suffixable_between (List.mem_of_head? hfirst)
    cases hbetween : (Cursor.ofText (' ' :: s)).between d with
    | nil => exact absurd hbetween hchunk.ne_nil
    | cons x more =>
      rw [hbetween, List.cons_append, Cursor.ofText, List.cons.injEq] at happend
      have hspace := hchunk.no_space
      rw [hbetween, happend.1] at hspace
      exact absurd List.mem_cons_self hspace

end SplitPattern.Named

namespace BytePair

open SplitPattern.Named

variable {b : BytePair} {s : List Char}

/-- Under this pattern the chunks of a text are its matches, but for those of white space. -/
theorem chunks_clip (hpattern : b.pattern = clip.pattern) (hsuffix : b.suffix? = some "</w>")
    (s : List Char) :
    b.chunks s = (clip.pattern.chunks s).filter fun chunk => !Text.allBlank chunk := by
  have hadded : clip.pattern.chunks (b.addPrefix s) = clip.pattern.chunks s := by
    unfold addPrefix
    split
    · rfl
    · split
      · exact chunks_cons_space _
      · rfl
  unfold chunks
  simp only [hpattern, hsuffix, hadded, Option.isSome_some, if_true]

/-- The suffix is spelled as it is. -/
theorem spell_endMark (b : BytePair) : b.spell endMark = endMark := by
  have hsymbols : ByteAlphabet.symbols endMark = endMark := by decide +kernel
  rw [spell, hsymbols, ite_self]

/-- The tokens of a text spell its chunks, each with the suffix behind it. -/
theorem join_segment_spell (hpattern : b.pattern = clip.pattern)
    (hsuffix : b.suffix? = some "</w>") (s : List Char) :
    (String.join (b.segment s)).toList
      = b.spell ((b.chunks s).flatMap fun chunk => chunk ++ endMark) := by
  have hsome : ∀ chunk ∈ b.chunks s, b.suffix? = none ∨ chunk ≠ [] := by
    intro chunk hmem
    rw [chunks_clip hpattern hsuffix] at hmem
    exact Or.inr (suffixable_of_mem_chunks (List.mem_of_mem_filter hmem)).ne_nil
  have hending : b.ending = endMark := by
    rw [ending, hsuffix, Option.getD_some]
    rfl
  rw [join_segment_chunks hsome, hending, List.flatMap_def (f := fun chunk => chunk ++ endMark),
    spell_flatten, List.flatMap_map]
  simp only [spell_append, spell_endMark]

/-- The tokens of a text are joined to its chunks, with single spaces between them. -/
theorem join_segment_suffix (hpattern : b.pattern = clip.pattern)
    (hsuffix : b.suffix? = some "</w>") (s : List Char) :
    b.join ((b.segment s).map fun token => (token, false))
      = String.ofList ([' '].intercalate (b.chunks s)) := by
  have hchunk : ∀ chunk ∈ b.chunks s, Suffixable chunk := by
    intro chunk hmem
    rw [chunks_clip hpattern hsuffix] at hmem
    exact suffixable_of_mem_chunks (List.mem_of_mem_filter hmem)
  have hrun : b.decodeRun (String.join (b.segment s)).toList
      = (b.chunks s).flatMap fun chunk => chunk ++ [' '] := by
    rw [join_segment_spell hpattern hsuffix, decodeRun_spell, hsuffix]
    exact Text.replace_flatMap (by decide) (fun chunk hmem => (hchunk chunk hmem).no_end) [' ']
  -- No chunk ends with a space, so only the one for the last suffix is stripped.
  have hstripped := Text.dropWhile_reverse_flatMap (fun chunk hmem => (hchunk chunk hmem).ne_nil)
    fun chunk hmem => (hchunk chunk hmem).no_space
  rw [join, Joining.StandsFor.foldl_plain, Joining.flush, hsuffix]
  simp only [List.reverseAux_eq, List.append_nil, List.reverse_reverse, hrun, Option.isSome_some,
    if_true, hstripped]

/-! ## Whole texts -/

variable {S : Type} [Score S] {t : Tokenizer S}

/-- The tokens of a text in which no special tokens are looked for. -/
theorem result_tokenize (hmodel : t.model = .bytePair b) (hpolicy : t.policy = none)
    (text : String) (config : Option Config) : (t.tokenize text config).result
      = .ok (b.segment (if (config.getD t.config).lowercase then Text.lower text.toList
        else text.toList)) := by
  rw [Tokenizer.result_tokenize_none hpolicy, Tokenizer.segment, Tokenizer.normalize, hmodel]

/-- The chunks of a text that are not white space, with single spaces between them, come back from
    its ids, if all tokens inside the sequence are in the vocabulary and none is special. -/
theorem decode_encode_chunks (hmodel : t.model = .bytePair b) (hpattern : b.pattern = clip.pattern)
    (hsuffix : b.suffix = some "</w>") (hpolicy : t.policy = none) (text : String)
    {config : Option Config} (hcap : (config.getD t.config).cap = none) :
    ∃ encoded, (t.encode text config).result = .ok encoded ∧
      ((∀ (i : Nat) (token : String), encoded.mask[i]? = some 0 →
          encoded.tokens[i]? = some token → ∃ id, t.vocabulary.get? token = some id ∧
            t.vocabulary.isSpecial id = false) →
        t.decode (encoded.ids.map Int.ofNat) = .ok (" ".intercalate
          (((clip.pattern.chunks (if (config.getD t.config).lowercase then Text.lower text.toList
            else text.toList)).filter fun chunk => !Text.allBlank chunk).map String.ofList))) := by
  have hsome : b.suffix? = some "</w>" := by
    rw [suffix?, hsuffix]
    rfl
  have hencode := Tokenizer.result_encode_tokens (t := t) text none hcap
  rw [result_tokenize hmodel hpolicy] at hencode
  refine ⟨_, hencode, ?_⟩
  intro hknown
  have hordinary : ∀ token ∈ b.segment (if (config.getD t.config).lowercase
      then Text.lower text.toList else text.toList),
      ∃ id, t.vocabulary.token? id = some token ∧ t.vocabulary.isSpecial id = false := by
    intro token htoken
    rcases Tokenizer.exists_place_wrap (t := t) (config.getD t.config) 0 htoken with
      ⟨i, hmask, _, hplace⟩
    rcases hknown i token hmask hplace with ⟨id, hget, hspecial⟩
    exact ⟨id, Vocabulary.get?_eq_some_iff.1 hget, hspecial⟩
  rw [Tokenizer.decode_wrap_skip _ 0 hordinary, Tokenizer.join, hmodel]
  dsimp only
  rw [join_segment_suffix hpattern hsome, chunks_clip hpattern hsome, Text.intercalate_ofList]

/-- A text with the characters of the suffix in it, some of which are fused with the suffix behind
    them. -/
theorem decode_encode_chunks_of_suffix : ∃ (t : Tokenizer Float) (b : BytePair),
    t.model = .bytePair b ∧ b.pattern = clip.pattern ∧ b.suffix = some "</w>" ∧
    ∃ encoded, (t.encode "w</w>").result = .ok encoded ∧
      encoded.tokens = ["w</w>", "</</w>", "w</w>", "></w>"] ∧
      t.decode (encoded.ids.map Int.ofNat) = .ok "w </ w >" := by
  have hnodup : ["<unk>", "<bos>", "<eos>", "w</w>", "</</w>", "></w>"].Nodup := by decide
  rcases Vocabulary.exists_ofBounds hnodup (by decide) with ⟨v, hv, _, hids⟩
  have hpairs : [("<", "/</w>")].Nodup := by decide
  rcases MergeRules.exists_ofPairs hpairs with ⟨rules, _, hrules⟩
  let b : BytePair := ⟨rules, clip.pattern, true, false, some "</w>"⟩
  let t : Tokenizer Float := ⟨v, Config.uncapped false, false, false, none, .bytePair b⟩
  have hchunks : (clip.pattern.chunks "w</w>".toList).filter (fun chunk => !Text.allBlank chunk)
      = [['w'], ['<', '/'], ['w'], ['>']] := by
    decide +kernel
  have hsegment : b.segment "w</w>".toList = ["w</w>", "</</w>", "w</w>", "></w>"] := by
    have hsymbols : ∀ chunk, b.symbols chunk
        = addSuffix "</w>" ((ByteAlphabet.symbols chunk).map String.singleton) := fun _ => rfl
    have hletter : b.symbols ['w'] = ["w</w>"] := by
      rw [hsymbols]
      decide +kernel
    have hsigns : b.symbols ['<', '/'] = ["<", "/</w>"] := by
      rw [hsymbols]
      decide +kernel
    have hlast : b.symbols ['>'] = ["></w>"] := by
      rw [hsymbols]
      decide +kernel
    have hrank : rules.rank? "<" "/</w>" = some 0 := by
      rw [MergeRules.rank?_eq_some_iff, hrules]
      rfl
    have hfused : b.rules.apply ["<", "/</w>"] = ["</</w>"] := MergeRules.apply_pair hrank
    rw [segment, chunks_clip rfl rfl, hchunks]
    simp only [List.flatMap_cons, List.flatMap_nil, hletter, hsigns, hlast, hfused,
      MergeRules.apply_singleton]
    rfl
  have hcap : (Option.none.getD t.config).cap = none := rfl
  rcases decode_encode_chunks (t := t) (b := b) rfl rfl rfl rfl "w</w>" hcap with
    ⟨encoded, hencode, hback⟩
  have hinside : encoded.tokens = ["w</w>", "</</w>", "w</w>", "></w>"] := by
    have htokens : (t.tokenize "w</w>").result = .ok ["w</w>", "</</w>", "w</w>", "></w>"] := by
      rw [result_tokenize (t := t) rfl rfl, ← hsegment]
      rfl
    rw [Tokenizer.eq_wrap_of_encode hcap htokens hencode]
    rfl
  have hknown : ∀ (i : Nat) (token : String), encoded.mask[i]? = some 0 →
      encoded.tokens[i]? = some token → ∃ id, v.get? token = some id ∧ v.isSpecial id = false := by
    intro i token _ htoken
    rw [hinside] at htoken
    have hbehind : ∀ token ∈ ["w</w>", "</</w>", "w</w>", "></w>"],
        token ∈ ["<unk>", "<bos>", "<eos>", "w</w>", "</</w>", "></w>"].drop 3 := by
      decide
    exact Vocabulary.exists_id_of_bounds hv hids (hbehind token (List.mem_of_getElem? htoken))
  have hshown : t.decode (encoded.ids.map Int.ofNat) = .ok (" ".intercalate
      (((clip.pattern.chunks "w</w>".toList).filter fun chunk => !Text.allBlank chunk).map
        String.ofList)) := hback hknown
  refine ⟨t, b, rfl, rfl, rfl, encoded, hencode, hinside, ?_⟩
  rw [hshown, hchunks]
  rfl

end BytePair

end Subword
