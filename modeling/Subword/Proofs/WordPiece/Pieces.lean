import Mathlib.Data.List.Chain
import Subword.Proofs.Vocabulary
import Subword.WordPiece

/-!
# A word taken apart by longest pieces

Taking a word apart goes on by places. From a place, the search tries the ends
one after the other, beginning with the end of the word, and the first piece
that is a token is the longest one. Where it ends, the next piece begins.

What comes out is said here by the places alone: they begin at zero and end
with the word, and from each place to the next leads a piece that is a token
while no longer one is. Nothing else can be chosen anywhere, so there is at
most one such row of places. If there is none, the search gives up at some
place, and the pieces that it has found by then do not come out.

## Main definitions

* `WordPiece.pieceAt`: The piece of a word between two places.
* `WordPiece.Longest`: An end of the longest piece from a place.
* `WordPiece.Greedy`: Places from which to which longest pieces lead.

## Theorems

* `WordPiece.longestPiece?_iff`: What the search at a place finds.
* `WordPiece.greedy_iff`: Such places, taken from the front.
* `WordPiece.Greedy.unique`: There is at most one such row of places.
* `WordPiece.piecesFrom?_iff`: What the search from a place on finds.
* `WordPiece.mem_splitWord`: What the tokens of a word are.
* `WordPiece.splitWord_greedy`: What a word becomes.
-/

namespace Subword

namespace WordPiece

variable {w : WordPiece} {v : Vocabulary} {word : List Char} {limit start stop : Nat}
  {piece : String} {pieces : List String} {rest : List Char} {cuts : List Nat}

/-- The mark of the piece that begins at a place: the first piece has none. -/
def markAt (w : WordPiece) (start : Nat) : String :=
  if start = 0 then "" else w.mark

/-- The piece of a word between two places, with its mark. -/
def pieceAt (w : WordPiece) (word : List Char) (start stop : Nat) : String :=
  w.markAt start ++ String.ofList (word.extract start stop)

/-- The end of the longest piece that begins at a place, ends within a limit and is a token. -/
structure Longest (w : WordPiece) (v : Vocabulary) (word : List Char) (limit start stop : Nat) :
    Prop where
  lt : start < stop
  le : stop ≤ limit
  isToken : v.contains (w.pieceAt word start stop) = true
  noLonger : ∀ further, stop < further → further ≤ limit →
    v.contains (w.pieceAt word start further) = false

/-- Places from a given one to the end of a word, from each of which the longest piece leads to
    the next. -/
structure Greedy (w : WordPiece) (v : Vocabulary) (word : List Char) (start : Nat)
    (cuts : List Nat) : Prop where
  head : cuts.head? = some start
  last : cuts.getLast? = some word.length
  longest : cuts.IsChain (w.Longest v word word.length)

/-- The pieces between places. -/
def piecesAt (w : WordPiece) (word : List Char) (cuts : List Nat) : List String :=
  List.zipWith (w.pieceAt word) cuts cuts.tail

@[simp] theorem markAt_zero (w : WordPiece) : w.markAt 0 = "" := rfl

theorem markAt_of_lt (h : start < stop) : w.markAt stop = w.mark :=
  if_neg (by omega)

@[simp] theorem piecesAt_singleton (start : Nat) : w.piecesAt word [start] = [] := rfl

theorem pieceAt_add (w : WordPiece) (word : List Char) (start count : Nat) :
    w.pieceAt word start (start + count)
      = w.markAt start ++ String.ofList ((word.drop start).take count) := by
  rw [pieceAt, List.extract_eq_take_drop, Nat.add_sub_cancel_left]

/-! ## One piece -/

theorem Longest.start_lt (h : w.Longest v word limit start stop) : start < limit :=
  Nat.lt_of_lt_of_le h.lt h.le

/-- The longest piece from a place has one end. -/
theorem Longest.unique (h : w.Longest v word limit start stop) {other : Nat}
    (hother : w.Longest v word limit start other) : other = stop := by
  rcases Nat.lt_trichotomy other stop with hlt | heq | hlt
  · have hno := hother.noLonger stop hlt h.le
    rw [h.isToken] at hno
    cases hno
  · exact heq
  · have hno := h.noLonger other hlt hother.le
    rw [hother.isToken] at hno
    cases hno

/-- Where the piece up to the limit is a token, it is the longest. -/
theorem longest_succ_of_isToken (hle : start ≤ limit)
    (h : v.contains (w.pieceAt word start (limit + 1)) = true) :
    w.Longest v word (limit + 1) start stop ↔ stop = limit + 1 := by
  have htop : w.Longest v word (limit + 1) start (limit + 1) := by
    refine ⟨by omega, Nat.le_refl _, h, ?_⟩
    intro further hlt hfurther
    omega
  constructor
  · exact fun hstop => htop.unique hstop
  · rintro rfl
    exact htop

/-- Where it is not, the longest piece ends earlier. -/
theorem longest_succ_of_not (h : v.contains (w.pieceAt word start (limit + 1)) = false) :
    w.Longest v word (limit + 1) start stop ↔ w.Longest v word limit start stop := by
  constructor
  · intro hstop
    have hne : stop ≠ limit + 1 := by
      rintro rfl
      rw [hstop.isToken] at h
      cases h
    have hle := hstop.le
    refine ⟨hstop.lt, by omega, hstop.isToken, ?_⟩
    intro further hlt hfurther
    exact hstop.noLonger further hlt (by omega)
  · intro hstop
    have hle := hstop.le
    refine ⟨hstop.lt, by omega, hstop.isToken, ?_⟩
    intro further hlt hfurther
    by_cases heq : further = limit + 1
    · rwa [heq]
    · exact hstop.noLonger further hlt (by omega)

/-- What the search at a place finds is the longest piece, and what stands behind it. -/
theorem longestPiece?_iff {count : Nat} :
    longestPiece? v (w.markAt start) (word.drop start) count = some (piece, rest) ↔
      ∃ stop, w.Longest v word (start + count) start stop ∧
        piece = w.pieceAt word start stop ∧ rest = word.drop stop := by
  induction count with
  | zero =>
    constructor
    · intro h
      cases h
    · rintro ⟨stop, hstop, _⟩
      exact absurd hstop.start_lt (Nat.lt_irrefl start)
  | succ count ih =>
    -- The end that is tried first is the limit. If it will not do, the limit is one less.
    rw [longestPiece?, List.drop_drop, ← pieceAt_add, ← Nat.add_assoc]
    cases htoken : v.contains (w.pieceAt word start (start + count + 1)) with
    | true =>
      simp only [longest_succ_of_isToken (Nat.le_add_right start count) htoken, exists_eq_left,
        if_true, Option.some.injEq, Prod.mk.injEq, eq_comm]
    | false =>
      simp only [longest_succ_of_not htoken, if_neg Bool.false_ne_true, ih]

/-! ## All pieces -/

/-- The places from a given one on: this is the end of the word, or the longest piece leads from
    it to another, from which the places go on. -/
theorem greedy_iff : w.Greedy v word start cuts ↔
    (start = word.length ∧ cuts = [start]) ∨
      ∃ stop more, cuts = start :: more ∧ w.Longest v word word.length start stop ∧
        w.Greedy v word stop more := by
  constructor
  · rintro ⟨hhead, hlast, hlongest⟩
    cases cuts with
    | nil => cases hhead
    | cons first more =>
      rw [List.head?_cons, Option.some.injEq] at hhead
      rw [← hhead]
      cases more with
      | nil =>
        rw [List.getLast?_singleton, Option.some.injEq] at hlast
        exact Or.inl ⟨hlast, rfl⟩
      | cons stop more =>
        rw [List.isChain_cons_cons] at hlongest
        rw [List.getLast?_cons_cons] at hlast
        exact Or.inr ⟨stop, _, rfl, hlongest.1, rfl, hlast, hlongest.2⟩
  · rintro (⟨hend, rfl⟩ | ⟨stop, more, rfl, hstop, hgreedy⟩)
    · exact ⟨rfl, by rw [List.getLast?_singleton, hend], List.isChain_singleton start⟩
    · rcases hgreedy with ⟨hhead, hlast, hlongest⟩
      cases more with
      | nil => cases hhead
      | cons first more =>
        rw [List.head?_cons, Option.some.injEq] at hhead
        rw [hhead] at hlast hlongest ⊢
        exact ⟨rfl, by rwa [List.getLast?_cons_cons], List.isChain_cons_cons.2 ⟨hstop, hlongest⟩⟩

/-- From the end of a word no piece leads on. -/
theorem greedy_length : w.Greedy v word word.length cuts ↔ cuts = [word.length] := by
  rw [greedy_iff]
  constructor
  · rintro (⟨_, rfl⟩ | ⟨stop, _, _, hstop, _⟩)
    · rfl
    · exact absurd hstop.start_lt (Nat.lt_irrefl word.length)
  · rintro rfl
    exact Or.inl ⟨rfl, rfl⟩

/-- There is at most one row of places: at each of them the next one is fixed. -/
theorem Greedy.unique (h : w.Greedy v word start cuts) {other : List Nat}
    (hother : w.Greedy v word start other) : other = cuts := by
  induction cuts generalizing start other with
  | nil => cases h.head
  | cons first more ih =>
    rcases greedy_iff.1 h with ⟨rfl, heq⟩ | ⟨stop, rest, heq, hstop, hgreedy⟩
    · rw [heq]
      exact greedy_length.1 hother
    · rw [List.cons.injEq] at heq
      rcases heq with ⟨rfl, rfl⟩
      -- A piece leads on from here, so this is not the end of the word in the other row either.
      rcases greedy_iff.1 hother with ⟨hend, _⟩ | ⟨next, others, rfl, hnext, hothers⟩
      · exact absurd hstop.start_lt (hend ▸ Nat.lt_irrefl word.length)
      · rw [hstop.unique hnext] at hothers
        rw [ih hgreedy hothers]

theorem piecesAt_cons (h : w.Greedy v word stop cuts) (start : Nat) :
    w.piecesAt word (start :: cuts) = w.pieceAt word start stop :: w.piecesAt word cuts := by
  cases cuts with
  | nil => cases h.head
  | cons first more =>
    have hhead := h.head
    rw [List.head?_cons, Option.some.injEq] at hhead
    rw [hhead]
    rfl

/-- Each of the pieces between such places is a longest one. -/
theorem Greedy.exists_longest (h : w.Greedy v word start cuts)
    (hmem : piece ∈ w.piecesAt word cuts) : ∃ first last,
      w.Longest v word word.length first last ∧ piece = w.pieceAt word first last := by
  induction cuts generalizing start with
  | nil => cases h.head
  | cons first more ih =>
    rcases greedy_iff.1 h with ⟨_, heq⟩ | ⟨stop, rest, heq, hstop, hgreedy⟩
    · rw [heq, piecesAt_singleton] at hmem
      cases hmem
    · rw [List.cons.injEq] at heq
      rcases heq with ⟨rfl, rfl⟩
      rw [piecesAt_cons hgreedy] at hmem
      rcases List.mem_cons.1 hmem with rfl | hmem
      · exact ⟨_, stop, hstop, rfl⟩
      · exact ih hgreedy hmem

/-- Where characters are left, the search takes the longest piece and goes on behind it. -/
theorem piecesFrom?_succ {s : List Char} (hs : s ≠ []) (bound : Nat) (inner mark : String) :
    piecesFrom? v inner (bound + 1) mark s = (longestPiece? v mark s s.length).bind fun found =>
      (piecesFrom? v inner bound inner found.2).map (found.1 :: ·) := by
  cases s with
  | nil => exact absurd rfl hs
  | cons c more =>
    rw [piecesFrom?]
    · cases longestPiece? v mark (c :: more) (c :: more).length <;> rfl
    · exact List.cons_ne_nil c more

/-- What the search from a place on finds are the pieces between such places. -/
theorem piecesFrom?_iff {bound : Nat} (hle : start ≤ word.length)
    (hbound : word.length ≤ start + bound) :
    piecesFrom? v w.mark bound (w.markAt start) (word.drop start) = some pieces ↔
      ∃ cuts, w.Greedy v word start cuts ∧ pieces = w.piecesAt word cuts := by
  -- The induction is on the bound. Every piece takes a character, so behind it a smaller bound
  -- will do.
  induction bound generalizing start pieces with
  | zero =>
    obtain rfl : start = word.length := by omega
    rw [List.drop_length, piecesFrom?]
    simp only [greedy_length, exists_eq_left, piecesAt_singleton, Option.some.injEq, eq_comm]
  | succ bound ih =>
    by_cases hend : start = word.length
    · subst hend
      rw [List.drop_length, piecesFrom?]
      simp only [greedy_length, exists_eq_left, piecesAt_singleton, Option.some.injEq, eq_comm]
    · have hne : word.drop start ≠ [] := by
        rw [Ne, List.drop_eq_nil_iff]
        omega
      -- The search begins with the end of the word, so that is the limit of the longest piece.
      have hlimit : start + (word.drop start).length = word.length := by
        rw [List.length_drop]
        omega
      rw [piecesFrom?_succ hne, Option.bind_eq_some_iff]
      constructor
      · rintro ⟨⟨piece, rest⟩, hpiece, hmore⟩
        rcases longestPiece?_iff.1 hpiece with ⟨stop, hstop, rfl, rfl⟩
        rw [hlimit] at hstop
        have hlt := hstop.lt
        rcases Option.map_eq_some_iff.1 hmore with ⟨others, hothers, rfl⟩
        have hiff := @ih stop others hstop.le (by omega)
        rw [markAt_of_lt hlt] at hiff
        rcases hiff.1 hothers with ⟨cuts, hcuts, rfl⟩
        refine ⟨start :: cuts, greedy_iff.2 (Or.inr ⟨stop, cuts, rfl, hstop, hcuts⟩), ?_⟩
        rw [piecesAt_cons hcuts]
      · rintro ⟨cuts, hcuts, rfl⟩
        rcases greedy_iff.1 hcuts with ⟨heq, _⟩ | ⟨stop, others, rfl, hstop, hothers⟩
        · exact absurd heq hend
        · have hlt := hstop.lt
          have hmore := (ih hstop.le (by omega)).2 ⟨others, hothers, rfl⟩
          rw [markAt_of_lt hlt] at hmore
          refine ⟨_, longestPiece?_iff.2 ⟨stop, hlimit ▸ hstop, rfl, rfl⟩, ?_⟩
          rw [hmore, piecesAt_cons hothers, Option.map_some]

/-- A word is taken apart at the places to which longest pieces lead from its beginning. -/
theorem pieces?_iff : w.pieces? v word = some pieces ↔
    ∃ cuts, w.Greedy v word 0 cuts ∧ pieces = w.piecesAt word cuts := by
  have hfrom := @piecesFrom?_iff w v word 0 pieces word.length (Nat.zero_le _) (by omega)
  rwa [markAt_zero, List.drop_zero] at hfrom

/-- A word that is a token is its only piece. -/
theorem splitWord_of_contains (hshort : w.isTooLong word = false) (hne : word ≠ [])
    (h : v.contains (String.ofList word) = true) : w.splitWord v word = [String.ofList word] := by
  have hpos := List.length_pos_iff.2 hne
  have hwhole : w.pieceAt word 0 word.length = String.ofList word := by
    have hadd := pieceAt_add w word 0 word.length
    rwa [Nat.zero_add, markAt_zero, String.empty_append, List.drop_zero, List.take_length] at hadd
  have hlongest : w.Longest v word word.length 0 word.length := by
    refine ⟨hpos, Nat.le_refl _, by rwa [hwhole], ?_⟩
    intro further hlt hle
    omega
  have hcuts : w.Greedy v word 0 [0, word.length] :=
    greedy_iff.2 (Or.inr ⟨_, _, rfl, hlongest, greedy_length.2 rfl⟩)
  have hpieces : w.piecesAt word [0, word.length] = [String.ofList word] := by
    rw [← hwhole]
    rfl
  rw [splitWord, hshort, if_neg Bool.false_ne_true, pieces?_iff.2 ⟨_, hcuts, rfl⟩,
    Option.getD_some, hpieces]

/-- Every token of a word is the unknown one or a longest piece of the word. -/
theorem mem_splitWord (h : piece ∈ w.splitWord v word) :
    piece = v.unkToken ∨ ∃ start stop, w.Longest v word word.length start stop ∧
      piece = w.pieceAt word start stop := by
  rw [splitWord] at h
  split at h
  · exact Or.inl (List.mem_singleton.1 h)
  · cases hpieces : w.pieces? v word with
    | none =>
      rw [hpieces] at h
      exact Or.inl (List.mem_singleton.1 h)
    | some pieces =>
      rw [hpieces] at h
      rcases pieces?_iff.1 hpieces with ⟨cuts, hcuts, rfl⟩
      exact Or.inr (hcuts.exists_longest h)

/-- What a word becomes. A limit that is an integer is compared with the number of characters.
    Within it, if longest pieces lead from the beginning of the word through some places to its
    end, these are the only such places, and the word becomes the pieces between them. In all
    other cases it becomes the unknown token. -/
theorem splitWord_greedy (w : WordPiece) (v : Vocabulary) (word : List Char) :
    (∀ limit, w.longestWord = .int limit → (w.isTooLong word = true ↔ limit < word.length)) ∧
    (∀ cuts, w.isTooLong word = false → w.Greedy v word 0 cuts →
      (∀ other, w.Greedy v word 0 other → other = cuts) ∧
        w.splitWord v word = w.piecesAt word cuts) ∧
    (w.isTooLong word = true ∨ (¬ ∃ cuts, w.Greedy v word 0 cuts) →
      w.splitWord v word = [v.unkToken]) := by
  refine ⟨?_, ?_, ?_⟩
  · intro limit hlimit
    rw [isTooLong, hlimit, Json.isLess, Json.numeric?, Option.any_some, decide_eq_true_eq]
    exact fun x h => Json.noConfusion h
  · intro cuts hshort hcuts
    refine ⟨fun other hother => hcuts.unique hother, ?_⟩
    rw [splitWord, hshort, if_neg Bool.false_ne_true, pieces?_iff.2 ⟨cuts, hcuts, rfl⟩,
      Option.getD_some]
  · intro hcase
    rw [splitWord]
    split
    · rfl
    · next hshort =>
      cases hpieces : w.pieces? v word with
      | none => rfl
      | some pieces =>
        rcases pieces?_iff.1 hpieces with ⟨cuts, hcuts, _⟩
        rcases hcase with hlong | hnone
        · exact absurd hlong hshort
        · exact absurd ⟨cuts, hcuts⟩ hnone

/-- A word that is taken apart into three pieces, at whose first place a shorter piece is a token
    as well. -/
theorem splitWord_greedy_of_suffixes : ∃ v : Vocabulary,
    v.tokens.toList = ["[UNK]", "u", "un", "##aff", "##able"] ∧
    ({} : WordPiece).splitWord v "unaffable".toList = ["un", "##aff", "##able"] := by
  have hnodup : ["[UNK]", "u", "un", "##aff", "##able"].Nodup := by decide
  rcases Vocabulary.exists_ofUnknown hnodup 0 (by decide) with ⟨v, _, hv, _⟩
  have hlongest : ∀ start stop, start < stop → stop ≤ 9 →
      pieceAt {} "unaffable".toList start stop ∈ v.tokens.toList →
      (∀ further < 10, stop < further →
        pieceAt {} "unaffable".toList start further ∉ v.tokens.toList) →
      Longest {} v "unaffable".toList 9 start stop := by
    intro start stop hlt hle htoken hno
    refine ⟨hlt, hle, Vocabulary.contains_iff.2 htoken, ?_⟩
    intro further hfurther hlimit
    rw [← Bool.not_eq_true, Vocabulary.contains_iff]
    exact hno further (by omega) hfurther
  rw [hv] at hlongest
  have hcuts : Greedy {} v "unaffable".toList 0 [0, 2, 5, 9] := by
    refine ⟨rfl, rfl, ?_⟩
    simp only [List.isChain_cons_cons]
    refine ⟨hlongest 0 2 ?_ ?_ ?_ ?_, hlongest 2 5 ?_ ?_ ?_ ?_, hlongest 5 9 ?_ ?_ ?_ ?_,
      List.isChain_singleton 9⟩
    all_goals decide
  refine ⟨v, hv, ?_⟩
  rw [((splitWord_greedy {} v "unaffable".toList).2.1 _ rfl hcuts).2]
  decide

end WordPiece

end Subword
