import Subword.Proofs.Segmentation.Search
import Subword.Proofs.Vocabulary
import Subword.Unigram

/-!
# The pieces of a unigram tokenizer

Making a tokenizer sorts the tokens of a vocabulary once, into those that match
text, those that stand for bytes, and the rest. What a search then asks for is
looked up in the tables that come of it. Here the tables are read back in terms
of the vocabulary and the scores: which tokens are pieces, what they cost, what
an unknown character costs, and which token is taken for a byte.

## Main definitions

* `Unigram.isPiece`: Whether a token matches text.
* `Unigram.pieceScore?`: The score of a text as a piece.
* `Unigram.prices`: Exact prices from a vocabulary and scores.
* `Unigram.SpellsByte`: A token that stands for a byte.

## Theorems

* `Unigram.mem_scoredPieces`: The tokens that match text are the pieces.
* `Unigram.score?_make`: The score of a text is its price.
* `Unigram.choices_agree`: The choices of a search are the prices.
* `Unigram.exists_byteToken`: With byte fallback every byte has a token.
-/

namespace Subword

namespace Unigram

variable {v : Vocabulary} {dummyPrefix byteFallback : Bool}

/-- Whether a token matches text: it is not special, not empty, and not that of a byte. -/
def isPiece (v : Vocabulary) (id : Nat) (token : String) : Bool :=
  !v.isSpecial id && !token.isEmpty && (byteOf? token).isNone

/-- The exact score of a text as a piece. -/
def price? (v : Vocabulary) (scores : List ℚ) (piece : String) : Option ℚ :=
  (v.get? piece).bind fun id => if isPiece v id piece then scores[id]? else none

/-- Exact prices from a vocabulary and scores: an unknown character costs ten less than the piece
    with the lowest score, and ten less than nothing when there is no piece. -/
def prices (v : Vocabulary) (scores : List ℚ) : Segmentation.Prices where
  piece? := price? v scores
  unknown := (v.tokens.toList.filterMap (price? v scores)).min?.getD 0 - 10

/-- Scores as those of a search. -/
def exact (scores : List ℚ) : List (WithBot ℚ) := scores.map (↑)

/-- A token that stands for a byte: one of the vocabulary, not special, with the name of the
    byte. -/
def SpellsByte (v : Vocabulary) (b : UInt8) (token : String) : Prop :=
  byteOf? token = some b ∧ ∃ id, v.token? id = some token ∧ v.isSpecial id = false

/-! ## Roles -/

section Roles

variable {S : Type} {scores : List S}

/-- The tokens of a vocabulary with their roles. -/
def withRoles (v : Vocabulary) (scores : List S) : List (String × Role S) :=
  v.tokens.toList.zip (rolesOf v scores.toArray).toList

theorem getElem?_rolesOf {id : Nat} {token : String} {score : S}
    (ht : v.token? id = some token) (hs : scores[id]? = some score) :
    (rolesOf v scores.toArray)[id]? = some (roleOf v id token score) := by
  have hkey : v.tokens.keys[id]? = some token := ht
  have hscore : scores.toArray[id]? = some score := by
    rw [List.getElem?_toArray]
    exact hs
  unfold rolesOf
  rw [Array.getElem?_mapIdx, hkey, Option.map_some]
  simp only [hscore]

/-- Where there are as many scores as tokens, every token has a score. -/
theorem exists_score (h : scores.length = v.size) {id : Nat} {token : String}
    (ht : v.token? id = some token) : ∃ score, scores[id]? = some score := by
  have hlt : id < v.size := by
    rw [Vocabulary.token?_eq_getElem?] at ht
    exact (List.getElem?_eq_some_iff.1 ht).1
  exact ⟨_, List.getElem?_eq_getElem (h ▸ hlt)⟩

/-- A token with its role, by its id. -/
theorem mem_withRoles (h : scores.length = v.size) {token : String} {role : Role S} :
    (token, role) ∈ withRoles v scores ↔ ∃ id score, v.token? id = some token ∧
      scores[id]? = some score ∧ role = roleOf v id token score := by
  rw [List.mem_iff_getElem?]
  constructor
  · rintro ⟨id, hid⟩
    rw [withRoles, List.getElem?_zip_eq_some, ← Vocabulary.token?_eq_getElem?,
      Array.getElem?_toList] at hid
    rcases exists_score h hid.1 with ⟨score, hs⟩
    rw [getElem?_rolesOf hid.1 hs, Option.some.injEq] at hid
    exact ⟨id, score, hid.1, hs, hid.2.symm⟩
  · rintro ⟨id, score, ht, hs, rfl⟩
    refine ⟨id, ?_⟩
    rw [withRoles, List.getElem?_zip_eq_some, ← Vocabulary.token?_eq_getElem?,
      Array.getElem?_toList]
    exact ⟨ht, getElem?_rolesOf ht hs⟩

theorem score?_roleOf (id : Nat) (token : String) (score : S) :
    (roleOf v id token score).score? = if isPiece v id token then some score else none := by
  unfold roleOf isPiece
  by_cases hskip : (v.isSpecial id || token.isEmpty) = true
  · rw [if_pos hskip, ← Bool.not_or, hskip, Bool.not_true, Bool.false_and]
    rfl
  · rw [if_neg hskip, ← Bool.not_or, Bool.eq_false_iff.2 hskip, Bool.not_false, Bool.true_and]
    cases byteOf? token <;> rfl

theorem roleOf_eq_byte_iff {id : Nat} {token : String} {score : S} {b : UInt8} :
    roleOf v id token score = .byte b ↔
      v.isSpecial id = false ∧ token.isEmpty = false ∧ byteOf? token = some b := by
  unfold roleOf
  cases v.isSpecial id <;> cases token.isEmpty <;> cases byteOf? token <;> simp

/-- The score of a text in a tokenizer that was made, by the id of the text. -/
theorem score?_make_of_get? (h : scores.length = v.size) [Score S] {piece : String} {id : Nat}
    (hid : v.get? piece = some id) :
    (make v scores dummyPrefix byteFallback).score? v piece
      = if isPiece v id piece then scores[id]? else none := by
  have ht := Vocabulary.get?_eq_some_iff.1 hid
  rcases exists_score h ht with ⟨score, hs⟩
  have hrole : (make v scores dummyPrefix byteFallback).roles[id]?
      = some (roleOf v id piece score) := getElem?_rolesOf ht hs
  unfold score?
  rw [hid, Option.bind_eq_bind, Option.bind_some, hrole, Option.bind_eq_bind, Option.bind_some,
    score?_roleOf, hs]

/-- The score of a text as a piece of a vocabulary. -/
def pieceScore? (v : Vocabulary) (scores : List S) (piece : String) : Option S :=
  (v.get? piece).bind fun id => if isPiece v id piece then scores[id]? else none

/-- The score of a text in a tokenizer that was made is that of the piece. -/
theorem score?_make_eq (h : scores.length = v.size) [Score S] (piece : String) :
    (make v scores dummyPrefix byteFallback).score? v piece = pieceScore? v scores piece := by
  unfold pieceScore?
  cases hid : v.get? piece with
  | none =>
    unfold score?
    rw [hid]
    rfl
  | some id => rw [score?_make_of_get? h hid, Option.bind_some]

/-- Scores of another kind belong to the same pieces. -/
theorem pieceScore?_map {T : Type} (f : S → T) (piece : String) :
    pieceScore? v (scores.map f) piece = (pieceScore? v scores piece).map f := by
  unfold pieceScore?
  cases v.get? piece with
  | none => rfl
  | some id =>
    rw [Option.bind_some, Option.bind_some]
    split
    · rw [List.getElem?_map]
    · rfl

/-- What has a score is a piece of the vocabulary. -/
theorem exists_piece {piece : String} (h : (pieceScore? v scores piece).isSome = true) :
    ∃ id, v.get? piece = some id ∧ isPiece v id piece = true := by
  rcases Option.isSome_iff_exists.1 h with ⟨score, hscore⟩
  rcases Option.bind_eq_some_iff.1 hscore with ⟨id, hid, hpiece⟩
  refine ⟨id, hid, ?_⟩
  by_contra hno
  rw [if_neg hno] at hpiece
  cases hpiece

/-- A piece of the vocabulary has a score. -/
theorem isSome_pieceScore? (hcount : scores.length = v.size) {piece : String} {id : Nat}
    (hget : v.get? piece = some id) (hpiece : isPiece v id piece = true) :
    (pieceScore? v scores piece).isSome = true := by
  rcases exists_score hcount (Vocabulary.get?_eq_some_iff.1 hget) with ⟨score, hscore⟩
  rw [pieceScore?, hget, Option.bind_some, if_pos hpiece, hscore]
  rfl

theorem map_fst_withRoles (scores : List S) :
    (withRoles v scores).map Prod.fst = v.tokens.toList := by
  refine List.map_fst_zip (Nat.le_of_eq ?_)
  simp only [Numbering.toList, Array.length_toList, rolesOf, Array.size_mapIdx]

/-- The tokens that match text, with their scores. -/
def scoredPieces (v : Vocabulary) (scores : List S) : List (String × S) :=
  (withRoles v scores).filterMap fun (token, role) => role.score?.map fun score => (token, score)

/-- The tokens that match text are the pieces, with their scores. -/
theorem mem_scoredPieces (h : scores.length = v.size) {piece : String} {score : S} :
    (piece, score) ∈ scoredPieces v scores ↔ pieceScore? v scores piece = some score := by
  have hrole : ∀ {id : Nat} {token : String} {x : S}, v.token? id = some token →
      scores[id]? = some x → (roleOf v id token x).score? = pieceScore? v scores token := by
    intro id token x ht hs
    rw [score?_roleOf, pieceScore?, Vocabulary.get?_eq_some_iff.2 ht, Option.bind_some, hs]
  rw [scoredPieces, List.mem_filterMap]
  constructor
  · rintro ⟨⟨token, role⟩, hmem, hentry⟩
    rcases (mem_withRoles h).1 hmem with ⟨id, x, ht, hs, rfl⟩
    rcases Option.map_eq_some_iff.1 hentry with ⟨y, hy, heq⟩
    rcases Prod.mk.inj heq with ⟨rfl, rfl⟩
    rw [← hrole ht hs, hy]
  · intro hscore
    rcases Option.bind_eq_some_iff.1 hscore with ⟨id, hid, _⟩
    have ht := Vocabulary.get?_eq_some_iff.1 hid
    rcases exists_score h ht with ⟨x, hs⟩
    refine ⟨_, (mem_withRoles h).2 ⟨id, x, ht, hs, rfl⟩, ?_⟩
    show ((roleOf v id piece x).score?).map _ = _
    rw [hrole ht hs, hscore]
    rfl

theorem longest_make [Score S] : (make v scores dummyPrefix byteFallback).longest
    = ((scoredPieces v scores).map fun piece => piece.1.length).foldl max 1 := rfl

/-- No piece is longer than the longest one. -/
theorem length_le_longest [Score S] (h : scores.length = v.size) {piece : String} {score : S}
    (hscore : pieceScore? v scores piece = some score) :
    piece.length ≤ (make v scores dummyPrefix byteFallback).longest := by
  rw [longest_make, List.foldl_max]
  refine Nat.le_trans (List.le_max?_getD_of_mem ?_) (Nat.le_max_right _ _)
  exact List.mem_map.2 ⟨(piece, score), (mem_scoredPieces h).2 hscore, rfl⟩

theorem one_le_longest [Score S] (scores : List S) (dummyPrefix byteFallback : Bool) :
    1 ≤ (make v scores dummyPrefix byteFallback).longest := by
  rw [longest_make, List.foldl_max]
  exact Nat.le_max_left _ _

theorem unknownScore_make [Score S] : (make v scores dummyPrefix byteFallback).unknownScore
    = Score.tenLess (leastScore ((scoredPieces v scores).map Prod.snd)) := rfl

end Roles

/-! ## Prices -/

variable {scores : List ℚ}

theorem length_exact (scores : List ℚ) : (exact scores).length = scores.length :=
  List.length_map _

theorem price?_eq (scores : List ℚ) (piece : String) :
    price? v scores piece = pieceScore? v scores piece := rfl

/-- The score of a text is its price. -/
theorem score?_make (h : scores.length = v.size) (piece : String) :
    (make v (exact scores) dummyPrefix byteFallback).score? v piece
      = (price? v scores piece).map (↑) := by
  rw [score?_make_eq (by rw [length_exact, h]), exact, pieceScore?_map, price?_eq]

/-- The least of some exact scores. -/
theorem leastScore_exact (scores : List ℚ) :
    leastScore (exact scores) = ((scores.min?.getD 0 : ℚ) : WithBot ℚ) := by
  cases scores with
  | nil => rfl
  | cons first rest =>
    rw [List.min?_cons', Option.getD_some]
    show (exact rest).foldl _ (first : WithBot ℚ) = _
    induction rest generalizing first with
    | nil => rfl
    | cons x rest ih =>
      have hmin : (if Score.lt (x : WithBot ℚ) (first : WithBot ℚ) then (x : WithBot ℚ) else first)
          = ((min first x : ℚ) : WithBot ℚ) := by
        simp only [Score.lt, WithBot.coe_lt_coe, decide_eq_true_eq]
        by_cases hlt : x < first
        · rw [if_pos hlt, min_eq_right (le_of_lt hlt)]
        · rw [if_neg hlt, min_eq_left (not_lt.1 hlt)]
      rw [List.foldl_cons, ← ih (min first x), ← hmin]
      rfl

/-- A role matches text at the price of its token. -/
theorem score?_of_mem_withRoles (h : scores.length = v.size) {token : String}
    {role : Role (WithBot ℚ)} (hmem : (token, role) ∈ withRoles v (exact scores)) :
    role.score? = (price? v scores token).map (↑) := by
  have hlen : (exact scores).length = v.size := by rw [length_exact, h]
  rcases (mem_withRoles hlen).1 hmem with ⟨id, score, ht, hs, rfl⟩
  rw [score?_roleOf, price?, Vocabulary.get?_eq_some_iff.2 ht, Option.bind_some]
  by_cases hp : isPiece v id token = true
  · rw [if_pos hp, if_pos hp, ← hs, exact, List.getElem?_map]
  · rw [if_neg hp, if_neg hp]
    rfl

/-- The scores of the tokens that match text are the prices of the tokens, in their order. -/
theorem map_snd_scoredPieces (h : scores.length = v.size) :
    (scoredPieces v (exact scores)).map Prod.snd
      = exact (v.tokens.toList.filterMap (price? v scores)) := by
  have hprice : ∀ entry ∈ withRoles v (exact scores),
      (entry.2.score?.map fun score => (entry.1, score)).map Prod.snd
        = (price? v scores entry.1).map (↑) := by
    intro entry hmem
    rw [score?_of_mem_withRoles h hmem, Option.map_map, Option.map_map]
    rfl
  calc (scoredPieces v (exact scores)).map Prod.snd
      = (withRoles v (exact scores)).filterMap fun entry =>
          (entry.2.score?.map fun score => (entry.1, score)).map Prod.snd := List.map_filterMap
    _ = (withRoles v (exact scores)).filterMap fun entry =>
          (price? v scores entry.1).map (↑) := List.filterMap_congr hprice
    _ = exact ((withRoles v (exact scores)).filterMap (price? v scores ∘ Prod.fst)) :=
          List.map_filterMap.symm
    _ = exact (v.tokens.toList.filterMap (price? v scores)) := by
          rw [← List.filterMap_map, map_fst_withRoles]

/-- A piece of the vocabulary has a price. -/
theorem price?_ne_none (hcount : scores.length = v.size) {piece : String} {id : Nat}
    (hget : v.get? piece = some id) (hpiece : isPiece v id piece = true) :
    price? v scores piece ≠ none :=
  Option.isSome_iff_ne_none.1 (isSome_pieceScore? hcount hget hpiece)

/-- The choices of a search are the prices. -/
theorem choices_agree (h : scores.length = v.size) :
    Segmentation.Agrees ((make v (exact scores) dummyPrefix byteFallback).choices v)
      (prices v scores) := by
  refine ⟨fun piece => score?_make h piece, ?_, ?_,
    one_le_longest (exact scores) dummyPrefix byteFallback⟩
  · show (make v (exact scores) dummyPrefix byteFallback).unknownScore = _
    rw [unknownScore_make, map_snd_scoredPieces h, leastScore_exact]
    show _ + ((-10 : ℚ) : WithBot ℚ) = _
    rw [← WithBot.coe_add, prices, sub_eq_add_neg]
  · intro piece x hx
    have hprice : price? v scores piece = some x := hx
    have hscore : pieceScore? v (exact scores) piece = some (x : WithBot ℚ) := by
      rw [exact, pieceScore?_map, ← price?_eq, hprice]
      rfl
    show _ ≤ (make v (exact scores) dummyPrefix byteFallback).longest
    exact length_le_longest (by rw [length_exact, h]) hscore

/-! ## Tokens for bytes -/

section Bytes

variable {S : Type} {scores : List S}

theorem byteTokensOf_snoc (tokens : List (String × Role S)) (token : String) (role : Role S) :
    byteTokensOf (tokens ++ [(token, role)]) = match role with
      | .byte b => (byteTokensOf tokens).setIfInBounds b.toNat (some token)
      | _ => byteTokensOf tokens := by
  unfold byteTokensOf
  rw [List.foldl_append]
  rfl

theorem size_byteTokensOf (tokens : List (String × Role S)) :
    (byteTokensOf tokens).size = 256 := by
  induction tokens using List.reverseRecOn with
  | nil => exact Array.size_replicate
  | append_singleton tokens entry ih =>
    rcases entry with ⟨token, role⟩
    rw [byteTokensOf_snoc]
    cases role with
    | piece _ => exact ih
    | byte _ => rw [Array.size_setIfInBounds, ih]
    | none => exact ih

/-- A token in the table for bytes has the role of its byte. -/
theorem mem_of_byteTokensOf {tokens : List (String × Role S)} {n : Nat} {token : String}
    (h : (byteTokensOf tokens)[n]? = some (some token)) :
    ∃ b : UInt8, b.toNat = n ∧ (token, Role.byte b) ∈ tokens := by
  induction tokens using List.reverseRecOn with
  | nil =>
    have hnil : byteTokensOf ([] : List (String × Role S)) = Array.replicate 256 none := rfl
    rw [hnil, Array.getElem?_replicate] at h
    by_cases hn : n < 256
    · rw [if_pos hn] at h
      cases h
    · rw [if_neg hn] at h
      cases h
  | append_singleton tokens entry ih =>
    rcases entry with ⟨other, role⟩
    have hold : (byteTokensOf tokens)[n]? = some (some token) →
        ∃ b : UInt8, b.toNat = n ∧ (token, Role.byte b) ∈ tokens ++ [(other, role)] := by
      intro h
      rcases ih h with ⟨b, hb, hmem⟩
      exact ⟨b, hb, List.mem_append_left _ hmem⟩
    rw [byteTokensOf_snoc] at h
    cases role with
    | piece _ => exact hold h
    | none => exact hold h
    | byte b =>
      simp only [Array.getElem?_setIfInBounds] at h
      by_cases hb : b.toNat = n
      · -- The later of two tokens for a byte is the one that is taken.
        rw [if_pos hb] at h
        by_cases hlt : b.toNat < (byteTokensOf tokens).size
        · rw [if_pos hlt, Option.some.injEq, Option.some.injEq] at h
          rw [h]
          exact ⟨b, hb, List.mem_append_right _ List.mem_cons_self⟩
        · rw [if_neg hlt] at h
          cases h
      · rw [if_neg hb] at h
        exact hold h

/-- With byte fallback, every byte has a token, which is one that stands for it. -/
theorem exists_byteToken [Score S] (h : scores.length = v.size)
    (hactive : (make v scores dummyPrefix byteFallback).byteFallback = true) (b : UInt8) :
    ∃ token, (make v scores dummyPrefix byteFallback).byteTokens[b.toNat]? = some (some token) ∧
      SpellsByte v b token := by
  have htable : (make v scores dummyPrefix byteFallback).byteTokens
      = byteTokensOf (withRoles v scores) := rfl
  have hall : bytesPresent (byteTokensOf (withRoles v scores)) = 256 := by
    have hboth : (byteFallback && decide (bytesPresent (byteTokensOf (withRoles v scores)) = 256))
        = true := hactive
    exact of_decide_eq_true (Bool.and_eq_true_iff.1 hboth).2
  have hsize := size_byteTokensOf (withRoles v scores)
  rw [bytesPresent, ← hsize, ← Array.length_toList, List.countP_eq_length] at hall
  have hlt : b.toNat < (byteTokensOf (withRoles v scores)).size := by
    rw [hsize]
    exact UInt8.toNat_lt b
  have hsome := hall _ (Array.getElem_mem_toList hlt)
  rcases Option.isSome_iff_exists.1 hsome with ⟨token, htoken⟩
  have hget : (byteTokensOf (withRoles v scores))[b.toNat]? = some (some token) := by
    rw [Array.getElem?_eq_getElem hlt, htoken]
  refine ⟨token, hget, ?_⟩
  rcases mem_of_byteTokensOf hget with ⟨c, hc, hmem⟩
  rcases UInt8.toNat_inj.1 hc
  rcases (mem_withRoles h).1 hmem with ⟨id, score, ht, _, hrole⟩
  rcases roleOf_eq_byte_iff.1 hrole.symm with ⟨hspecial, _, hbyte⟩
  exact ⟨hbyte, id, ht, hspecial⟩

end Bytes

end Unigram

end Subword
