import Subword.Proofs.Directory.Document
import Subword.Proofs.Directory.Stated
import Subword.Proofs.Tokenizer

/-!
# Tokens and scores as a document declares them

The ids of a vocabulary come from two places in a document, the table of its
model and the tokens that are added to it, and the scores of a unigram tokenizer
from a third, the list whose positions are the ids. When the document is loaded,
every one of these says what it says in the document: no id is shifted, no token
is left out or brought in, and the scores stand beside their pieces.

A token that is added with a number in the place of its text has a display form
as its token. What it means for it to be special is another matter, so that is
only said for texts.

## Main definitions

* `Tokenizer.Declares`: A document that declares what a tokenizer has.

## Theorems

* `Descriptor.Loaded.declares`: A descriptor is loaded as its document declares.
* `Tokenizer.load_declared`: So is the tokenizer of a directory.
-/

namespace Subword

/-- A document that declares what a tokenizer has. -/
structure Tokenizer.Declares (document : Json) (t : Tokenizer Float) : Prop where
  /-- The integers in a table are the ids of their tokens. -/
  entry : ∀ entries, document.modelTokens = .obj entries → ∀ token (id : Int),
    (token, .int id) ∈ entries → ∃ n : Nat, id = n ∧ t.vocabulary.get? token = some n
  /-- An added token has its id. -/
  added : ∀ item ∈ document.addedTokens, ∃ token, ∃ n : Nat, item.Adds token n ∧
    t.vocabulary.get? token = some n
  /-- A special one is special, by its id and by name. -/
  special : ∀ item ∈ document.addedTokens, (item.get "special").holds = true →
    ∀ text, item.get? "content" = some (.str text) → ∃ n : Nat, item.get? "id" = some (.int n) ∧
      t.vocabulary.isSpecial n = true ∧ t.vocabulary.literals.lookup text = some n
  /-- There is no token that is not in the table, in the list or among the added ones. -/
  only : ∀ token (n : Nat), t.vocabulary.get? token = some n →
    (∃ entries, document.modelTokens = .obj entries ∧ (token, .int n) ∈ entries) ∨
    (∃ items value, document.modelTokens = .arr items ∧
      items[n]? = some (.arr [.str token, value])) ∨
    ∃ item ∈ document.addedTokens, item.Adds token n
  /-- The entries of a list are pieces with their positions as ids and with their scores, and
      behind them all scores are zero. -/
  scored : ∀ items, document.modelTokens = .arr items → ∃ u, t.model = .unigram u ∧
    u.scores.size = t.vocabulary.size ∧
    (∀ (i : Nat) entry, items[i]? = some entry → ∃ piece value score,
      entry = .arr [.str piece, value] ∧ Descriptor.declaredScore? value = some score ∧
      t.vocabulary.get? piece = some i ∧ u.scores[i]? = some score) ∧
    ∀ n, items.length ≤ n → n < t.vocabulary.size → u.scores[n]? = some 0.0

namespace Descriptor

variable {d : Descriptor} {hints : Hints} {t : Tokenizer Float} {v : Vocabulary}
  {entries ids : List (String × Json)} {wishes : Wishes} {pieces : List (String × Float)}

/-! ## Ids -/

/-- A value in a table that is a vocabulary is the id of its token. -/
theorem get?_of_mem (hv : Vocabulary.ofMapping ids wishes d.extra = .ok v) {token : String}
    {value : Json} {id : Int} (hmem : (token, value) ∈ ids) (hequal : value.equalsInt id = true) :
    ∃ n : Nat, id = n ∧ v.get? token = some n := by
  rcases (Vocabulary.acceptable_of_ofMapping hv).numbers.distinctIds.natural _ hmem with ⟨n, hn⟩
  dsimp only at hn
  subst hn
  have hid : (n : Int) = id := Option.some.inj (of_decide_eq_true hequal)
  exact ⟨n, hid.symm, ((Vocabulary.represents_of_ofMapping hv).get?_iff token n).2 hmem⟩

section

variable (hids : withAdded entries d.added = .ok ids)
  (hv : Vocabulary.ofMapping ids wishes d.extra = .ok v)

include hids hv

/-- An integer in the table is the id of its token. -/
theorem get?_of_entry {token : String} {id : Int} (hmem : (token, .int id) ∈ entries) :
    ∃ n : Nat, id = n ∧ v.get? token = some n := by
  have hint := equalsInt_int id
  have hkept := (withAdded_merges hids).keeps _ _ hmem (ne_null_of_equalsInt hint)
  exact get?_of_mem hv hkept hint

/-- An added token has its id. -/
theorem get?_of_added {a : AddedToken} (ha : a ∈ d.added) :
    ∃ n : Nat, a.id = n ∧ v.get? a.text = some n := by
  rcases (withAdded_merges hids).adds a ha with ⟨value, hmem, hequal⟩
  exact get?_of_mem hv hmem hequal

/-- A token is in the table or is an added one. -/
theorem mem_of_get? {token : String} {n : Nat} (h : v.get? token = some n) :
    (token, .int n) ∈ entries ∨ ∃ a ∈ d.added, a.text = token ∧ a.id = n := by
  have hmem := ((Vocabulary.represents_of_ofMapping hv).get?_iff token n).1 h
  rcases (withAdded_merges hids).only _ _ hmem with hmem | ⟨a, ha, rfl⟩
  · exact Or.inl hmem
  · rcases get?_of_added hids hv ha with ⟨m, hm, hget⟩
    rw [hget, Option.some.injEq] at h
    rw [h] at hm
    exact Or.inr ⟨a, ha, rfl, hm⟩

end

/-- An added token that is special is so by its id and by name. -/
theorem isSpecial_of_added (hv : Vocabulary.ofMapping ids wishes d.extra = .ok v) {a : AddedToken}
    (ha : a ∈ d.added) (hspecial : a.special = true) {text : String}
    (htext : a.content = .str text) {n : Nat} (hget : v.get? text = some n) :
    v.isSpecial n = true ∧ v.literals.lookup text = some n := by
  have hrepresents := Vocabulary.represents_of_ofMapping hv
  have hwish : Slot.Wish.oneOf [text] ∈ d.extra := by
    refine List.mem_filterMap.2 ⟨a, List.mem_filter.2 ⟨ha, hspecial⟩, ?_⟩
    rw [wishOf?, htext]
  have hid : v.isSpecial n = true := by
    refine (hrepresents.isSpecial_iff n).2 (Or.inr ?_)
    exact (hrepresents.special.mem_extra_iff n).2 ⟨_, hwish, Vocabulary.granted_cons hget []⟩
  refine ⟨hid, ?_⟩
  exact Vocabulary.lookup_literals_iff.2
    (Vocabulary.mem_literals.2 ⟨hid, Vocabulary.get?_eq_some_iff.1 hget⟩)

/-! ## Scores -/

/-- The scores that stand beside pieces, and those behind them. -/
theorem getElem?_scoresFor (v : Vocabulary) (pieces : List (String × Float)) (n : Nat) :
    (scoresFor v pieces)[n]? =
      if n < pieces.length then pieces[n]?.map Prod.snd
      else if n < v.size then some 0.0 else none := by
  rw [scoresFor, List.getElem?_append, List.length_map, List.getElem?_map,
    List.getElem?_replicate]
  by_cases hlt : n < pieces.length
  · rw [if_pos hlt, if_pos hlt]
  · rw [if_neg hlt, if_neg hlt]
    by_cases hsize : n < v.size
    · rw [if_pos hsize, if_pos (by omega)]
    · rw [if_neg hsize, if_neg (by omega)]

/-- A piece of a list has its position as its id, and its own score beside it. -/
theorem get?_of_piece (hids : withAdded (pieceIds pieces) d.added = .ok ids)
    (hv : Vocabulary.ofMapping ids wishes d.extra = .ok v) {i : Nat} {piece : String × Float}
    (hi : pieces[i]? = some piece) :
    v.get? piece.1 = some i ∧ (scoresFor v pieces)[i]? = some piece.2 := by
  have hmem : (piece.1, .int i) ∈ pieceIds pieces := by
    rw [pieceIds_eq, Vocabulary.mem_numbered_int, List.getElem?_map, hi]
    rfl
  rcases get?_of_entry hids hv hmem with ⟨n, hn, hget⟩
  refine ⟨by rw [hget, Int.natCast_inj.1 hn], ?_⟩
  rw [getElem?_scoresFor, if_pos (List.getElem?_eq_some_iff.1 hi).1, hi]
  rfl

/-! ## Documents -/

/-- A descriptor is loaded as its document declares. -/
theorem Loaded.declares {document : Json} {place : Option String}
    (hd : (ofJson document place).result = .ok d) (h : Loaded d hints t) :
    Tokenizer.Declares document t := by
  rcases ofJson_eq_ok hd with ⟨added, hadded, -, rfl⟩
  rcases h.vocabulary with ⟨entries, ids, wishes, hstates, hids, hv, _⟩
  refine ⟨?_, ?_, ?_, ?_, ?_⟩
  · intro table htable token id hmem
    cases hstates with
    | table hvocab =>
      rcases Json.obj.inj (hvocab.symm.trans htable)
      exact get?_of_entry hids hv hmem
    | pieces hvocab => cases hvocab.symm.trans htable
  · intro item hmem
    rcases exists_mem_beside hadded hmem with ⟨a, ha, hitem⟩
    rcases AddedToken.ofJson_eq_ok_iff.1 hitem with ⟨hid, hcontent, _⟩
    rcases get?_of_added hids hv ha with ⟨n, hn, hget⟩
    exact ⟨a.text, n, ⟨hn ▸ hid, a.content, hcontent, rfl⟩, hget⟩
  · intro item hmem hholds text htext
    rcases exists_mem_beside hadded hmem with ⟨a, ha, hitem⟩
    rcases AddedToken.ofJson_eq_ok_iff.1 hitem with ⟨hid, hcontent, hspecial⟩
    have hstr : a.content = .str text := Option.some.inj (hcontent.symm.trans htext)
    rcases get?_of_added hids hv ha with ⟨n, hn, hget⟩
    rw [AddedToken.text, hstr] at hget
    exact ⟨n, hn ▸ hid, isSpecial_of_added hv ha (hspecial.trans hholds) hstr hget⟩
  · intro token n hget
    rcases mem_of_get? hids hv hget with hmem | ⟨a, ha, rfl, hid⟩
    · cases hstates with
      | table hvocab => exact Or.inl ⟨entries, hvocab, hmem⟩
      | pieces hvocab hscored =>
        -- Ids in this table are positions in the list.
        rw [pieceIds_eq, Vocabulary.mem_numbered_int, List.getElem?_map] at hmem
        rcases Option.map_eq_some_iff.1 hmem with ⟨piece, hpiece, rfl⟩
        rcases exists_beside hscored.flip hpiece with ⟨entry, hentry, value, rfl, _⟩
        exact Or.inr (Or.inl ⟨_, value, hvocab, hentry⟩)
    · rcases exists_mem_beside hadded.flip ha with ⟨item, hmem, hitem⟩
      rcases AddedToken.ofJson_eq_ok_iff.1 hitem with ⟨hidItem, hcontent, _⟩
      exact Or.inr (Or.inr ⟨item, hmem, hid ▸ hidItem, a.content, hcontent, rfl⟩)
  · intro items hitems
    cases hstates with
    | table hvocab => cases hvocab.symm.trans hitems
    | @pieces list pieces u hvocab hscored hscores hmodel =>
      rcases Json.arr.inj (hvocab.symm.trans hitems)
      refine ⟨u, hmodel, ?_, ?_, ?_⟩
      · rw [hscores, List.size_toArray, length_scoresFor hids hv]
      · intro i entry hentry
        rcases exists_beside hscored hentry with ⟨piece, hpiece, value, rfl, hvalue⟩
        rw [hscores, List.getElem?_toArray]
        exact ⟨piece.1, value, piece.2, rfl, hvalue, get?_of_piece hids hv hpiece⟩
      · intro n hle hlt
        have hcount := hscored.length_eq
        rw [hscores, List.getElem?_toArray, getElem?_scoresFor, if_neg (by omega), if_pos hlt]

end Descriptor

namespace Tokenizer

/-- The tokenizer of a directory has the tokens, ids and scores that the document of the directory
    declares. When the pieces of a unigram model have been found and make a vocabulary with the
    added tokens, there is a tokenizer, so there are never too few or too many scores. -/
theorem load_declared [PieceLibrary] {tree : FileTree} {directory root : FilePath}
    (hlayout : Layout.locate tree directory = .ok (root, .descriptor)) (config : Option Config)
    (choice : Option PolicyChoice) :
    (∀ t, (load tree directory config choice).result = .ok t → ∃ document,
      tree.readDocument (root.child Layout.descriptorFile) = .ok document ∧
        Declares document t) ∧
    ∀ (d : Descriptor) (path : FilePath) (hints : Hints) (wishes : Wishes) (options : Config)
      (pieces : List (String × Float)) (ids : List (String × Json)) (v : Vocabulary),
      d.pieces = .ok pieces → Descriptor.withAdded (Descriptor.pieceIds pieces) d.added = .ok ids →
        Vocabulary.ofMapping ids (d.unigramWishes wishes) d.extra = .ok v →
          (Descriptor.scoresFor v pieces).length = v.size ∧
            ∃ t, (d.loadUnigram path hints wishes options).result = .ok t ∧ t.vocabulary = v := by
  refine ⟨?_, ?_⟩
  · intro t ht
    rcases load_eq_ok hlayout ht with
      ⟨document, d, hints, plain, policy, hdocument, hd, hloaded, rfl⟩
    rcases hloaded.declares hd with ⟨hentry, hadded, hspecial, honly, hscored⟩
    exact ⟨document, hdocument, hentry, hadded, hspecial, honly, hscored⟩
  · intro d path hints wishes options pieces ids v hpieces hids hv
    exact ⟨Descriptor.length_scoresFor hids hv, Descriptor.exists_loadUnigram hpieces hids hv⟩

/-- A unigram model with two pieces, and two added tokens, one of which is a piece already. -/
def declaredText : String :=
  "\x7b\"model\": \x7b\"type\": \"Unigram\", \"vocab\": [[\"<unk>\", 0], [\"a\", -1]]\x7d, " ++
  "\"added_tokens\": [\x7b\"id\": 2, \"content\": \"<s>\", \"special\": true\x7d, " ++
  "\x7b\"id\": 1, \"content\": \"a\"\x7d]\x7d"

/-- The model in that text. -/
def declaredModel : Json := .obj [("type", .str "Unigram"),
  ("vocab", .arr [.arr [.str "<unk>", .int 0], .arr [.str "a", .int (-1)]])]

/-- The document in that text. -/
def declaredDocument : Json := .obj [("model", declaredModel),
  ("added_tokens", .arr [
    .obj [("id", .int 2), ("content", .str "<s>"), ("special", .bool true)],
    .obj [("id", .int 1), ("content", .str "a")]])]

set_option maxRecDepth 10000 in
theorem parse_declaredText : Json.parse declaredText = .ok declaredDocument := by
  have hparse : Json.parse declaredText = .ok (.obj (Json.mergeFields [("model", .obj
      (Json.mergeFields [("type", .str "Unigram"),
        ("vocab", .arr [.arr [.str "<unk>", .int 0], .arr [.str "a", .int (-1)]])])),
      ("added_tokens", .arr [
        .obj (Json.mergeFields [("id", .int 2), ("content", .str "<s>"), ("special", .bool true)]),
        .obj (Json.mergeFields [("id", .int 1), ("content", .str "a")])])])) := rfl
  rw [hparse, Json.mergeFields_of_nodup [("type", _), ("vocab", _)] (by decide),
    Json.mergeFields_of_nodup [("id", _), ("content", _), ("special", _)] (by decide),
    Json.mergeFields_of_nodup [("id", _), ("content", _)] (by decide),
    Json.mergeFields_of_nodup [("model", _), ("added_tokens", _)] (by decide)]
  rfl

/-- The descriptor in that document. -/
def declaredDescriptor : Descriptor :=
  Descriptor.assemble declaredDocument declaredModel [⟨2, .str "<s>", true⟩, ⟨1, .str "a", false⟩]

/-- The tokenizer of that text. -/
theorem load_declared_of_added : ∃ t u, (load (FileTree.holding declaredText) FileTree.home
      (some (Config.uncapped true))).result = .ok t ∧ t.model = .unigram u ∧
    t.vocabulary.get? "a" = some 1 ∧ t.vocabulary.get? "<s>" = some 2 ∧
    t.vocabulary.isSpecial 2 = true ∧ t.vocabulary.literals.lookup "<s>" = some 2 ∧
    u.scores[1]? = some (Decimal.ofInt (-1)) ∧ u.scores[2]? = some 0.0 := by
  rcases load_declared (FileTree.locate_holding declaredText) (some (Config.uncapped true)) none
    with ⟨hdeclared, hscores⟩
  have hd : (Descriptor.ofJson declaredDocument (some FileTree.descriptorPath.toString)).result
      = .ok declaredDescriptor := rfl
  have hpieces : declaredDescriptor.pieces
      = .ok [("<unk>", Decimal.ofInt 0), ("a", Decimal.ofInt (-1))] := by
    have hunk : Descriptor.scoreOf 0 = .ok (Decimal.ofInt 0) := if_pos (by decide +kernel)
    have ha : Descriptor.scoreOf (-1) = .ok (Decimal.ofInt (-1)) := if_pos (by decide +kernel)
    show Descriptor.piecesFrom 0 ∅ [.arr [.str "<unk>", .int 0], .arr [.str "a", .int (-1)]] = _
    simp [Descriptor.piecesFrom, Descriptor.pieceOf, hunk, ha, Except.map]
  have hids : Descriptor.withAdded (Descriptor.pieceIds [("<unk>", Decimal.ofInt 0),
      ("a", Decimal.ofInt (-1))]) declaredDescriptor.added
        = .ok [("<unk>", .int 0), ("a", .int 1), ("<s>", .int 2)] := rfl
  have hacceptable : Vocabulary.Acceptable [("<unk>", .int 0), ("a", .int 1), ("<s>", .int 2)]
      (Hints.silent.wishes .unigram declaredDescriptor.named) declaredDescriptor.extra := by
    refine Descriptor.acceptable_of_table (by decide) (List.Perm.refl _) ?_ ?_
    · intro asked hasked
      rw [List.mem_singleton.1 hasked]
      exact trivial
    · exact ⟨"<unk>", List.mem_cons_self, by decide⟩
  rcases Vocabulary.exists_ofMapping hacceptable with ⟨v, hv⟩
  rcases (hscores declaredDescriptor FileTree.descriptorPath Hints.silent _ (Config.uncapped true)
    _ _ v hpieces hids hv).2 with ⟨t, ht, rfl⟩
  have hload : (load (FileTree.holding declaredText) FileTree.home
      (some (Config.uncapped true))).result = .ok t := by
    rw [result_load_holding parse_declaredText hd]
    exact ht
  rcases hdeclared t hload with ⟨document, hdocument, hdeclares⟩
  have hsame : Except.ok declaredDocument = Except.ok document :=
    (FileTree.readDocument_holding parse_declaredText).symm.trans hdocument
  rw [← Except.ok.inj hsame] at hdeclares
  rcases hdeclares.scored _ rfl with ⟨u, hmodel, _, hpiece, hrest⟩
  rcases hpiece 1 _ rfl with ⟨piece, value, score, hentry, hvalue, hget, hscore⟩
  cases hentry
  cases hvalue
  rcases hdeclares.special _ List.mem_cons_self rfl "<s>" rfl with ⟨n, hn, hspecial, hliteral⟩
  have htwo : (2 : Int) = n := Json.int.inj (Option.some.inj hn)
  rcases Int.natCast_inj.1 htwo
  have htoken := (Vocabulary.mem_literals.1 (Vocabulary.lookup_literals_iff.1 hliteral)).2
  have hlt := Vocabulary.lt_size_of_token? htoken
  exact ⟨t, u, hload, hmodel, hget, Vocabulary.get?_eq_some_iff.2 htoken, hspecial, hliteral,
    hscore, hrest 2 (Nat.le_refl 2) hlt⟩

end Tokenizer

end Subword
