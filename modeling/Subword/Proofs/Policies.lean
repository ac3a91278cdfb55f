import Mathlib.Data.List.Nodup
import Subword.Proofs.Regex.Search
import Subword.Proofs.Text.Cut
import Subword.Proofs.Tokenizer
import Subword.Proofs.WordPiece.Scan

/-!
# Texts with and without special tokens

Policies differ in what they make of a special token whose name occurs in a
text. When none does there is nothing to differ about: the text is segmented as
a whole, also by the policies that look for places to cut it at, since they find
none. The one exception is the empty text, which has no parts at all when it is
looked through, and this makes no difference either, as it has no tokens.

To refuse a text is to name the special tokens that occur in it.

## Main definitions

* `Vocabulary.Mentions`: A special token whose name occurs in a text.

## Theorems

* `Text.occurs_iff`: Whether a text occurs in another.
* `Text.CutAt.whole`: A text in which no literal occurs is left whole.
* `SpecialPolicy.mem_occurring`: Which special tokens occur in a text.
* `Tokenizer.segment_nil`: The empty text has no tokens.
* `Tokenizer.tokenizeWith_of_free`: A text without special tokens is segmented as a whole.
* `Tokenizer.refuse_policies`: A text is refused or all policies agree on it.
-/

namespace Subword

/-! ## Occurrences -/

namespace Text

/-- A text occurs in another when the other continues it on both sides. -/
theorem occurs_iff (needle s : List Char) : occurs needle s = true ↔ needle <:+: s := by
  induction s with
  | nil => rw [occurs, List.isEmpty_iff, List.infix_nil]
  | cons c rest ih =>
    rw [occurs, Bool.or_eq_true, List.isPrefixOf_iff_prefix, ih, List.infix_cons_iff]

/-- A text in which no literal occurs is left whole. The empty text has no parts. -/
theorem CutAt.whole {literals : List (List Char)} {s : List Char} {parts : List Segment}
    (h : CutAt literals s parts) (hfree : ∀ l ∈ literals, ¬ l <:+: s) :
    parts = [.plain s] ∨ s = [] ∧ parts = [] := by
  -- A part that is a literal would occur in the text.
  have hliteral : ∀ front l behind, parts ≠ front ++ .literal l :: behind := by
    intro front l behind hparts
    have hstarts := h.starts front l behind hparts
    exact hfree l hstarts.mem (hstarts.isPrefix.isInfix.trans (List.drop_suffix _ s).isInfix)
  rcases parts with _ | ⟨_ | part, rest⟩
  · exact Or.inr ⟨h.textOf_eq.symm, rfl⟩
  · exact absurd rfl (hliteral [] _ rest)
  · rcases rest with _ | ⟨_ | next, rest⟩
    · have htext : part ++ [] = s := h.textOf_eq
      rw [List.append_nil] at htext
      exact Or.inl (by rw [htext])
    · exact absurd rfl (hliteral [.plain part] _ rest)
    · exact absurd rfl (h.apart [] part next rest)

end Text

namespace Vocabulary

variable {v : Vocabulary}

/-- A special token whose name occurs in a text. -/
def Mentions (v : Vocabulary) (s : List Char) (name : String) : Prop :=
  ∃ id, v.isSpecial id = true ∧ v.token? id = some name ∧ name.toList <:+: s

/-- What is left of numbers without those that come again. -/
theorem nodup_eraseDups (ids : List Nat) : ids.eraseDups.Nodup := by
  induction hlength : ids.length using Nat.strong_induction_on generalizing ids with
  | _ length ih =>
    subst hlength
    cases ids with
    | nil => exact List.nodup_nil
    | cons id rest =>
      rw [List.eraseDups_cons, List.nodup_cons]
      refine ⟨?_, ih _ (Nat.lt_succ_of_le (List.length_filter_le _ rest)) _ rfl⟩
      rw [List.mem_eraseDups, List.mem_filter]
      exact fun h => absurd h.2 (by rw [beq_self_eq_true, Bool.not_true]; exact Bool.false_ne_true)

theorem nodup_specialIds (v : Vocabulary) : v.specialIds.Nodup := by
  rw [v.specialIds_eq]
  exact nodup_eraseDups _

/-- No special token has the name of another one. -/
theorem nodup_literals (v : Vocabulary) : (v.literals.map Prod.fst).Nodup := by
  have hnames : v.literals.map Prod.fst = v.specialIds.filterMap v.token? := by
    rw [literals, List.map_filterMap]
    apply List.filterMap_congr
    intro id _
    cases v.token? id <;> rfl
  rw [hnames]
  refine List.Nodup.filterMap ?_ v.nodup_specialIds
  intro id other name hid hother
  have hget := get?_eq_some_iff.2 hid
  rw [get?_eq_some_iff.2 hother] at hget
  exact (Option.some.inj hget).symm

end Vocabulary

namespace SpecialPolicy

variable {v : Vocabulary} {s : List Char}

/-- What occurs in a text are the names of special tokens in it. -/
theorem mem_occurring {name : String} :
    name ∈ occurring s v.literals ↔ v.Mentions s name := by
  rw [occurring, List.mem_filter, Text.occurs_iff, List.mem_map]
  constructor
  · rintro ⟨⟨⟨token, id⟩, hmem, rfl⟩, hoccurs⟩
    rcases Vocabulary.mem_literals.1 hmem with ⟨hspecial, htoken⟩
    exact ⟨id, hspecial, htoken, hoccurs⟩
  · rintro ⟨id, hspecial, htoken, hoccurs⟩
    exact ⟨⟨(name, id), Vocabulary.mem_literals.2 ⟨hspecial, htoken⟩, rfl⟩, hoccurs⟩

theorem nodup_occurring : (occurring s v.literals).Nodup :=
  v.nodup_literals.filter _

/-- Every policy allows some of the special tokens of a vocabulary in a text without any of
    them, and gives no warning. -/
theorem allowed_of_free (policy : SpecialPolicy) (h : occurring s v.literals = []) :
    ∃ allowed, policy.allowed s v.literals = pure allowed ∧
      ∀ literal ∈ allowed, literal ∈ v.literals := by
  cases policy with
  | all =>
    -- The unknown token is always special, so this policy has no reason to warn.
    have hsome : v.literals.isEmpty = false := by
      rw [List.isEmpty_eq_false_iff_exists_mem]
      exact ⟨_, Vocabulary.mem_literals.2 ⟨v.isSpecial_unk, v.token?_unk⟩⟩
    refine ⟨v.literals, ?_, fun _ h => h⟩
    unfold SpecialPolicy.allowed
    simp only [hsome, Bool.false_eq_true, if_false]
  | none =>
    refine ⟨[], ?_, fun literal h => absurd h List.not_mem_nil⟩
    unfold SpecialPolicy.allowed
    simp only [h, List.isEmpty_nil, Bool.not_true, Bool.false_eq_true, if_false]
  | refuse =>
    refine ⟨[], ?_, fun literal h => absurd h List.not_mem_nil⟩
    unfold SpecialPolicy.allowed
    rw [h]
  | only chosen => exact ⟨_, rfl, fun _ h => (List.mem_filter.1 h).1⟩

/-- To refuse a text is to name the special tokens that occur in it. -/
theorem result_allowed_refuse (s : List Char) (literals : List (String × Nat)) :
    (refuse.allowed s literals).result
      = if occurring s literals = [] then .ok []
        else .error (.specialFound ((occurring s literals).mergeSort (· ≤ ·))) := by
  unfold SpecialPolicy.allowed
  cases hfound : occurring s literals with
  | nil => rfl
  | cons name rest => rfl

end SpecialPolicy

/-! ## The empty text -/

theorem WordPiece.normalize_nil (w : WordPiece) (lowercase : Bool) :
    w.normalize lowercase [] = [] := by
  -- Each of the three steps leaves the empty text as it is, and so does leaving it out.
  unfold WordPiece.normalize
  cases w.cleanText <;> cases lowercase <;> cases w.stripAccents.getD _ <;> rfl

theorem WordPiece.segment_nil (w : WordPiece) (v : Vocabulary) : w.segment v [] = [] := by
  have hwords : WordPiece.words [] = [] := WordPiece.forward_bert.findAll_nil
  rw [WordPiece.segment, hwords, List.flatMap_nil]

/-- A pattern may match where no character is, and such a chunk has no tokens. -/
theorem BytePair.segment_nil (b : BytePair) : b.segment [] = [] := by
  have hsymbols : b.symbols [] = [] := by
    unfold BytePair.symbols
    cases b.byteLevel <;> cases b.suffix? <;> rfl
  rw [BytePair.segment, List.flatMap_eq_nil_iff]
  intro chunk hchunk
  have hfound : chunk ∈ b.pattern.regex.findAll [] := by
    unfold BytePair.chunks at hchunk
    dsimp only at hchunk
    split at hchunk
    · exact (List.mem_filter.1 hchunk).1
    · exact hchunk
  rw [Regex.eq_nil_of_mem_findAll hfound, hsymbols]
  exact MergeRules.apply_of_none rfl

namespace Tokenizer

variable {S : Type} {t : Tokenizer S} {s : List Char}

/-- The empty text has no tokens, whatever the pattern, the marker and the space in front. -/
theorem segment_nil [Score S] (t : Tokenizer S) (config : Config) :
    t.segment (t.normalize config []) = [] := by
  have hlower : (if config.lowercase then Text.lower [] else []) = [] := by
    split <;> rfl
  cases hmodel : t.model with
  | wordPiece w =>
    simp only [segment, normalize, hmodel]
    rw [w.normalize_nil, w.segment_nil]
  | bytePair b =>
    simp only [segment, normalize, hmodel]
    rw [hlower, b.segment_nil]
  | unigram u =>
    simp only [segment, normalize, hmodel]
    rw [hlower]
    rfl

/-! ## All texts -/

/-- A text without special tokens is left whole by every policy. The empty text may have no
    parts at all. -/
theorem split_of_free (h : SpecialPolicy.occurring s t.vocabulary.literals = [])
    (policy : Option SpecialPolicy) :
    t.split policy s = pure [.plain s] ∨ s = [] ∧ t.split policy s = pure [] := by
  unfold split
  cases policy.or t.policy with
  | none => exact Or.inl rfl
  | some policy =>
    rcases policy.allowed_of_free h with ⟨allowed, hallowed, hmem⟩
    simp only [hallowed, pure_bind]
    split
    · exact Or.inl rfl
    · have hfree : ∀ l ∈ allowed.map fun literal => literal.1.toList, ¬ l <:+: s := by
        intro l hl hinfix
        rcases List.mem_map.1 hl with ⟨⟨name, id⟩, hliteral, rfl⟩
        rcases Vocabulary.mem_literals.1 (hmem _ hliteral) with ⟨hspecial, htoken⟩
        have hoccurs := SpecialPolicy.mem_occurring.2 ⟨id, hspecial, htoken, hinfix⟩
        rw [h] at hoccurs
        exact absurd hoccurs List.not_mem_nil
      -- The empty name would occur in every text, so it is not among them.
      have hne : ∀ l ∈ allowed.map fun literal => literal.1.toList, l ≠ [] := by
        rintro l hl rfl
        exact hfree [] hl (List.nil_infix)
      rcases (Text.cutAt_cut hne s).whole hfree with hparts | ⟨hs, hparts⟩
      · exact Or.inl (by rw [hparts])
      · exact Or.inr ⟨hs, by rw [hparts]⟩

/-- A text without special tokens is segmented as a whole under every policy. -/
theorem tokenizeWith_of_free [Score S] (h : SpecialPolicy.occurring s t.vocabulary.literals = [])
    (config : Config) (policy : Option SpecialPolicy) :
    t.tokenizeWith config policy s = pure (t.segment (t.normalize config s)) := by
  unfold tokenizeWith
  rcases t.split_of_free h policy with hsplit | ⟨rfl, hsplit⟩
  · rw [hsplit, pure_bind, List.flatMap_singleton]
    rfl
  · rw [hsplit, pure_bind, t.segment_nil, List.flatMap_nil]

/-- The tokens of a text that is refused if special tokens occur in it. -/
theorem result_tokenize_refuse [Score S] (t : Tokenizer S) (text : String)
    (config : Option Config) :
    (t.tokenize text config (some .refuse)).result
      = if SpecialPolicy.occurring text.toList t.vocabulary.literals = [] then
          .ok (t.segment (t.normalize (config.getD t.config) text.toList))
        else .error (.specialFound
          ((SpecialPolicy.occurring text.toList t.vocabulary.literals).mergeSort (· ≤ ·))) := by
  by_cases hfound : SpecialPolicy.occurring text.toList t.vocabulary.literals = []
  · rw [if_pos hfound, tokenize, tokenizeWith_of_free hfound, Outcome.result_pure]
  · rw [if_neg hfound, tokenize, tokenizeWith, Outcome.result_bind, split_refuse_error hfound]
    rfl

/-- The only error of looking for room is about the options. -/
theorem room_ne_specialFound (t : Tokenizer S) (config : Config) (names : List String) :
    t.room config ≠ .error (.specialFound names) := by
  unfold room
  cases config.cap with
  | none => exact fun h => by cases h
  | some cap =>
    dsimp only
    split
    · exact fun h => by cases h
    · exact fun h => by cases h

/-- Refusing is the error when there is something to name. -/
theorem refusal_iff {α : Type} {a : α} {occurs : Prop} [Decidable occurs] {found : List String}
    (hfound : found = [] ↔ occurs) (names : List String) :
    (if occurs then Except.ok a else .error (.specialFound found) : Except Error α)
      = .error (.specialFound names) ↔ found ≠ [] ∧ names = found := by
  split
  · next hoccurs =>
    constructor
    · intro h
      cases h
    · exact fun h => absurd (hfound.2 hoccurs) h.1
  · next hoccurs =>
    rw [Except.error.injEq, Error.specialFound.injEq, eq_comm]
    exact ⟨fun h => ⟨fun hnil => hoccurs (hfound.1 hnil), h⟩, fun h => h.2⟩

/-- Refusing names exactly the special tokens that occur in a text, and when there are none, all
    policies encode the text alike, with the same ids and the same warnings. Encoding looks for
    room before it looks at the text, so without room that is its error. -/
theorem refuse_policies [Score S] (t : Tokenizer S) (text : String) (config : Option Config) :
    ∃ found : List String, found.Nodup ∧
      (∀ name, name ∈ found ↔ t.vocabulary.Mentions text.toList name) ∧
      (∀ names, (SpecialPolicy.refuse.allowed text.toList t.vocabulary.literals).result
        = .error (.specialFound names) ↔ found ≠ [] ∧ names = found) ∧
      (∀ names, (t.tokenize text config (some .refuse)).result = .error (.specialFound names) ↔
        found ≠ [] ∧ names = found) ∧
      (∀ names, (t.encode text config (some .refuse)).result = .error (.specialFound names) ↔
        (∃ room, t.room (config.getD t.config) = .ok room) ∧ found ≠ [] ∧ names = found) ∧
      (found = [] → ∀ policy other : Option SpecialPolicy,
        t.encode text config policy = t.encode text config other) := by
  have hnil : (SpecialPolicy.occurring text.toList t.vocabulary.literals).mergeSort (· ≤ ·) = []
      ↔ SpecialPolicy.occurring text.toList t.vocabulary.literals = [] := by
    rw [← List.length_eq_zero_iff, List.length_mergeSort, List.length_eq_zero_iff]
  refine ⟨(SpecialPolicy.occurring text.toList t.vocabulary.literals).mergeSort (· ≤ ·),
    ?_, ?_, ?_, ?_, ?_, ?_⟩
  · exact (List.mergeSort_perm _ _).nodup_iff.2 SpecialPolicy.nodup_occurring
  · intro name
    rw [List.mem_mergeSort]
    exact SpecialPolicy.mem_occurring
  · rw [SpecialPolicy.result_allowed_refuse]
    exact refusal_iff hnil
  · rw [result_tokenize_refuse]
    exact refusal_iff hnil
  · intro names
    rw [result_encode_room]
    cases hroom : t.room (config.getD t.config) with
    | error e =>
      constructor
      · intro h
        rw [Except.error.inj h] at hroom
        exact absurd hroom (t.room_ne_specialFound _ names)
      · rintro ⟨⟨room, h⟩, _⟩
        cases h
    | ok room =>
      show Except.map _ _ = _ ↔ _
      rw [map_eq_error_iff, result_tokenize_refuse, refusal_iff hnil]
      exact ⟨fun h => ⟨⟨room, rfl⟩, h⟩, fun h => h.2⟩
  · intro hfound policy other
    have hfree := hnil.1 hfound
    rw [encode, encode, encodeWith, encodeWith, tokenizeWith_of_free hfree,
      tokenizeWith_of_free hfree]

/-- A text with the start token in it is refused for that token alone, and on a text without
    special tokens all policies agree. -/
theorem refuse_policies_of_start : ∃ t : Tokenizer Float,
    t.vocabulary.tokens.toList = ["<unk>", "<bos>", "<eos>", "a"] ∧
    (∀ names, (t.tokenize "a<bos>" none (some .refuse)).result = .error (.specialFound names) ↔
      names = ["<bos>"]) ∧
    (∀ policy other : Option SpecialPolicy, t.encode "a" none policy = t.encode "a" none other) ∧
    ∀ policy other : Option SpecialPolicy, t.encode "" none policy = t.encode "" none other := by
  have htokens : ["<unk>", "<bos>", "<eos>", "a"].Nodup := by decide
  rcases Vocabulary.exists_ofBounds htokens (by decide) with ⟨v, hv, _, hids⟩
  have hliterals := Vocabulary.literals_of_bounds hids hv
  let t : Tokenizer Float := ⟨v, Config.uncapped true, true, true, none, .bytePair
    { rules := ⟨.empty⟩, pattern := SplitPattern.Named.gpt2.pattern }⟩
  have hmentions : ∀ (s : List Char) (name : String), t.vocabulary.Mentions s name ↔
      name ∈ SpecialPolicy.occurring s [("<unk>", 0), ("<bos>", 1), ("<eos>", 2)] := by
    intro s name
    rw [← hliterals]
    exact SpecialPolicy.mem_occurring.symm
  have hnone : ∀ {s : List Char} {found : List String},
      (∀ name, name ∈ found ↔ t.vocabulary.Mentions s name) →
      SpecialPolicy.occurring s [("<unk>", 0), ("<bos>", 1), ("<eos>", 2)] = [] → found = [] := by
    intro s found hmem hoccurs
    rw [List.eq_nil_iff_forall_not_mem]
    intro name hname
    rw [hmem, hmentions, hoccurs] at hname
    exact absurd hname List.not_mem_nil
  rcases refuse_policies t "a<bos>" none with ⟨found, hnodup, hmem, _, hrefused, _, _⟩
  rcases refuse_policies t "a" none with ⟨others, _, hothers, _, _, _, hagree⟩
  rcases refuse_policies t "" none with ⟨none', _, hnone', _, _, _, hempty⟩
  have hstart : found = ["<bos>"] := by
    have hoccurs : SpecialPolicy.occurring "a<bos>".toList
        [("<unk>", 0), ("<bos>", 1), ("<eos>", 2)] = ["<bos>"] := by decide
    have hperm : found.Perm ["<bos>"] := by
      rw [List.perm_ext_iff_of_nodup hnodup (List.nodup_singleton _)]
      intro name
      rw [hmem, hmentions, hoccurs]
    exact List.perm_singleton.1 hperm
  refine ⟨t, hv, ?_, hagree (hnone hothers (by decide)), hempty (hnone hnone' (by decide))⟩
  intro names
  rw [hrefused, hstart]
  exact ⟨fun h => h.2, fun h => ⟨List.cons_ne_nil _ _, h⟩⟩

end Tokenizer

end Subword
