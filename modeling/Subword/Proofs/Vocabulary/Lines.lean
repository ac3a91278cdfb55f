import Subword.Proofs.Directory.Document
import Subword.Proofs.Vocabulary.Slots

/-!
# Tokens written one to a line

A file that has a token on each line is the simplest form of a vocabulary. What
is read from it are the parts between line feeds, without a last one that is
empty, and each without the line ends behind it. Reading gives the tokens that
were written, at their places, when no token has a line feed in it or ends in a
carriage return. This is so whether a line ends in a line feed or in a carriage
return and a line feed, and for the empty token as for any other.

The end of the last line can be missing. Then the last part is the last token,
which must not be empty, since an empty last part is no line.

## Main definitions

* `Text.LineEnd`: The two ways to end a line.
* `Text.writeLines`: Lines as they are written.
* `Text.WrittenAs`: A text that lines are written as, with an end to the last one or without.
* `Vocabulary.IsLine`: A token that can stand on a line.
* `Vocabulary.Resolvable`: Wishes that some tokens can fulfil.

## Theorems

* `Text.lines_writeLines`: Lines that were written are parted again.
* `Vocabulary.trim_lines_written`: What is read from tokens that were written are the tokens.
* `Vocabulary.exists_ofTokens_iff`: Which wishes make tokens a vocabulary.
* `Vocabulary.lines_number_tokens`: Reading the file of some tokens numbers them in their order.
-/

namespace Subword

/-! ## Lines -/

namespace Text

/-- The ways to end a line. -/
inductive LineEnd where
  | lineFeed
  /-- A carriage return in front of the line feed. -/
  | returnAndFeed

/-- What stands in front of the line feed that ends a line. -/
def LineEnd.front : LineEnd → List Char
  | lineFeed => []
  | returnAndFeed => ['\r']

/-- Lines as they are written, each with its end. -/
def writeLines (ending : LineEnd) (lines : List String) : List Char :=
  lines.flatMap fun line => line.toList ++ ending.front ++ ['\n']

/-- A text that lines are written as: each line with its end, or all but the last, which is not
    empty then. -/
inductive WrittenAs (ending : LineEnd) : List String → List Char → Prop
  | ended (lines : List String) : WrittenAs ending lines (writeLines ending lines)
  | unended (lines : List String) {last : String} (ne_empty : last ≠ "") :
      WrittenAs ending (lines ++ [last]) (writeLines ending lines ++ last.toList)

theorem lineFeed_notMem_front (ending : LineEnd) : '\n' ∉ ending.front := by
  cases ending <;> decide

theorem isLineEnd_front {ending : LineEnd} {c : Char} (h : c ∈ ending.front) :
    isLineEnd c = true := by
  cases ending with
  | lineFeed => exact absurd h List.not_mem_nil
  | returnAndFeed =>
    rw [List.mem_singleton.1 h]
    decide

/-- Lines that were written are parted again. What stands between a line and the line feed stays
    with the line. -/
theorem lines_writeLines (ending : LineEnd) {written : List String}
    (h : ∀ line ∈ written, '\n' ∉ line.toList) (rest : List Char) :
    lines (writeLines ending written ++ rest)
      = written.map (fun line => String.ofList (line.toList ++ ending.front)) ++ lines rest := by
  induction written with
  | nil => rfl
  | cons line more ih =>
    have hline : '\n' ∉ line.toList ++ ending.front := by
      rw [List.mem_append, not_or]
      exact ⟨h line List.mem_cons_self, lineFeed_notMem_front ending⟩
    have hfirst : writeLines ending (line :: more) ++ rest
        = (line.toList ++ ending.front) ++ '\n' :: (writeLines ending more ++ rest) := by
      rw [writeLines, List.flatMap_cons, List.append_assoc, List.append_assoc,
        List.singleton_append]
      rfl
    rw [hfirst, lines, parts_append hline, ← lines, List.map_cons, List.cons_append,
      ih fun other hother => h other (List.mem_cons_of_mem line hother)]

end Text

/-- A last line is dropped when it is empty. -/
theorem dropLastEmpty_append (lines : List String) (last : String) :
    dropLastEmpty (lines ++ [last]) = if last = "" then lines else lines ++ [last] := by
  unfold dropLastEmpty
  simp only [List.getLast?_concat, Option.some.injEq, List.dropLast_concat]

namespace Vocabulary

/-- A token that can stand on a line. It may be empty. -/
structure IsLine (token : String) : Prop where
  lineFeed : '\n' ∉ token.toList
  carriageReturn : token.toList.getLast? ≠ some '\r'

variable {tokens : List String} {ending : Text.LineEnd} {text : List Char} {wishes : Wishes}
  {extra : List Slot.Wish}

/-- What stands between a token and its line feed is trimmed, and nothing more. -/
theorem IsLine.trimmed {token : String} (h : IsLine token) (ends : List Char)
    (hends : ∀ c ∈ ends, Text.isLineEnd c = true) :
    Text.trimLineEnds (String.ofList (token.toList ++ ends)).toList = token.toList := by
  rw [String.toList_ofList]
  refine Text.trimLineEnds_append hends ?_
  intro c hc
  have hreturn : c ≠ '\r' := fun heq => h.carriageReturn (heq ▸ hc)
  have hfeed : c ≠ '\n' := fun heq => h.lineFeed (heq ▸ List.mem_of_getLast? hc)
  simp only [Text.isLineEnd, hreturn, hfeed, decide_false, Bool.or_self]

/-- What is read from tokens that were written are the tokens. -/
theorem trim_lines_written (hlines : ∀ token ∈ tokens, IsLine token)
    (htext : Text.WrittenAs ending tokens text) :
    (dropLastEmpty (Text.lines text)).map (fun line =>
      String.ofList (Text.trimLineEnds line.toList)) = tokens := by
  have htrim : ∀ written : List String, (∀ token ∈ written, IsLine token) →
      (written.map fun line => String.ofList (line.toList ++ ending.front)).map (fun line =>
        String.ofList (Text.trimLineEnds line.toList)) = written := by
    intro written hwritten
    rw [List.map_map]
    refine (List.map_congr_left fun token hmem => ?_).trans (List.map_id written)
    show String.ofList (Text.trimLineEnds _) = token
    rw [(hwritten token hmem).trimmed ending.front fun c => Text.isLineEnd_front,
      String.ofList_toList]
  have hparted := fun (written : List String) (h : ∀ token ∈ written, IsLine token) =>
    Text.lines_writeLines ending fun token hmem => (h token hmem).lineFeed
  cases htext with
  | ended =>
    -- Behind the last line feed is an empty part, which is no line.
    have hempty : Text.lines [] = [""] := rfl
    have hparts := hparted tokens hlines []
    rw [List.append_nil, hempty] at hparts
    rw [hparts, dropLastEmpty_append, if_pos rfl, htrim tokens hlines]
  | unended front hlast =>
    rename_i last
    have hline : IsLine last := hlines last (List.mem_append_right front List.mem_cons_self)
    have hfront : ∀ token ∈ front, IsLine token :=
      fun token hmem => hlines token (List.mem_append_left [last] hmem)
    have hlastPart : Text.lines last.toList = [last] := by
      rw [Text.lines, Text.parts_of_not_mem hline.lineFeed, String.ofList_toList]
    have hends := hline.trimmed [] fun c hc => absurd hc List.not_mem_nil
    rw [List.append_nil, String.ofList_toList] at hends
    rw [hparted front hfront, hlastPart, dropLastEmpty_append, if_neg hlast, List.map_append,
      htrim front hfront, List.map_singleton, hends, String.ofList_toList]

/-- Wishes that some tokens can fulfil: all names are those of slots, no id is out of range, and
    there is something for the unknown token. -/
structure Resolvable (tokens : List String) (wishes : Wishes) (extra : List Slot.Wish) :
    Prop where
  known : ∀ wish ∈ wishes, ∃ slot : Slot, slot.name = wish.1
  slots_inRange : ∀ slot asked, wishFor wishes slot = some asked → asked.InRange tokens.length
  extra_inRange : ∀ asked ∈ extra, asked.InRange tokens.length
  unknown : ∃ asked, wishFor wishes .unk = some asked ∧ asked.FoundIn tokens

/-- What a numbering can fulfil are the wishes that its keys can fulfil. -/
theorem fulfillable_iff {numbering : Numbering String} :
    Fulfillable numbering wishes extra ↔ Resolvable numbering.toList wishes extra := by
  have hsize : numbering.size = numbering.toList.length := (Array.length_toList).symm
  constructor
  · intro h
    rcases exists_granted_some_iff.1 h.unknown with ⟨asked, hasked, _, hfound⟩
    exact ⟨h.known, hsize ▸ h.slots_inRange, hsize ▸ h.extra_inRange, asked, hasked, hfound⟩
  · intro h
    rcases h.unknown with ⟨asked, hasked, hfound⟩
    refine ⟨h.known, hsize ▸ h.slots_inRange, hsize ▸ h.extra_inRange, ?_⟩
    have hrange := hsize ▸ h.slots_inRange .unk asked hasked
    exact exists_granted_some_iff.2 ⟨asked, hasked, hrange, hfound⟩

/-- Different tokens make a vocabulary exactly when they can fulfil the wishes. -/
theorem exists_ofTokens_iff (h : tokens.Nodup) :
    (∃ v, ofTokens tokens wishes extra = .ok v) ↔ Resolvable tokens wishes extra := by
  constructor
  · rintro ⟨v, hv⟩
    rcases ofTokens_fulfils hv with ⟨rfl, _, hwishes⟩
    exact fulfillable_iff.1 hwishes
  · intro hwishes
    rcases Numbering.exists_ofList h with ⟨numbering, hnumbering, rfl⟩
    exact exists_ofTokens_of_fulfillable hnumbering (fulfillable_iff.2 hwishes)

/-- A file on whose lines different tokens are written is read as a vocabulary of these tokens,
    each with its place as its id and no other token beside them, whatever goes into the slots. It
    is one exactly when the wishes for the slots can be fulfilled. -/
theorem lines_number_tokens (hnodup : tokens.Nodup) (hlines : ∀ token ∈ tokens, IsLine token)
    (htext : Text.WrittenAs ending tokens text) {tree : FileTree} {path : FilePath}
    (hfile : tree.status path = .file (Text.Utf8.encode text)) (wishes : Wishes)
    (extra : List Slot.Wish) :
    (tree.readLines path >>= fun lines => ofLines lines wishes extra)
        = ofTokens tokens wishes extra ∧
      ((∃ v, (tree.readLines path >>= fun lines => ofLines lines wishes extra) = .ok v) ↔
        Resolvable tokens wishes extra) ∧
      ∀ v, (tree.readLines path >>= fun lines => ofLines lines wishes extra) = .ok v →
        v.size = tokens.length ∧ (∀ id, v.token? id = tokens[id]?) ∧
          ∀ token id, v.get? token = some id ↔ tokens[id]? = some token := by
  have hread : tree.readText path = .ok text := FileTree.readText_of_status hfile
  have hsame : (tree.readLines path >>= fun lines => ofLines lines wishes extra)
      = ofTokens tokens wishes extra := by
    unfold FileTree.readLines
    rw [hread]
    show ofTokens _ wishes extra = _
    rw [trim_lines_written hlines htext]
  rw [hsame]
  refine ⟨rfl, exists_ofTokens_iff hnodup, ?_⟩
  intro v hv
  rcases ofTokens_fulfils hv with ⟨hlist, _, _⟩
  refine ⟨by rw [size_eq_length, hlist], fun id => by rw [token?_eq_getElem?, hlist], ?_⟩
  intro token id
  rw [get?_eq_some_iff, token?_eq_getElem?, hlist]

/-! ## A file without an end to its last line -/

/-- Tokens of which one is empty, and others hold what ends lines elsewhere. -/
def lineTokens : List String := ["[UNK]", "", "a\u0085b", "\rb"]

/-- A directory with these tokens in a file, the last line of which has no end. -/
def lineTree : FileTree := ⟨[(["m", "vocab.txt"], .file (Text.Utf8.encode
  (Text.writeLines .returnAndFeed ["[UNK]", "", "a\u0085b"] ++ "\rb".toList)))]⟩

/-- All of these tokens are read, with their places as their ids. -/
theorem lines_number_tokens_of_empty : ∃ v,
    (lineTree.readLines ⟨["m", "vocab.txt"]⟩ >>= fun lines =>
      ofLines lines [("unk", some (.oneOf ["<unk>", "[UNK]"]))] []) = .ok v ∧
    v.size = 4 ∧ v.get? "" = some 1 ∧ v.get? "a\u0085b" = some 2 ∧ v.token? 3 = some "\rb" := by
  have hnodup : lineTokens.Nodup := by decide
  have hlines : ∀ token ∈ lineTokens, IsLine token := by
    intro token hmem
    simp only [lineTokens, List.mem_cons, List.not_mem_nil, or_false] at hmem
    rcases hmem with rfl | rfl | rfl | rfl <;> exact ⟨by decide, by decide⟩
  have htext : Text.WrittenAs .returnAndFeed lineTokens _ :=
    .unended ["[UNK]", "", "a\u0085b"] (by decide : "\rb" ≠ "")
  have hfile : lineTree.status ⟨["m", "vocab.txt"]⟩ = .file (Text.Utf8.encode
    (Text.writeLines .returnAndFeed ["[UNK]", "", "a\u0085b"] ++ "\rb".toList)) := rfl
  have hwishes : Resolvable lineTokens [("unk", some (.oneOf ["<unk>", "[UNK]"]))] [] := by
    refine ⟨?_, ?_, ?_, ?_⟩
    · intro wish hmem
      rw [List.mem_singleton.1 hmem]
      exact ⟨.unk, rfl⟩
    · intro slot asked hasked
      cases slot <;> cases hasked
      exact trivial
    · exact fun asked hmem => absurd hmem List.not_mem_nil
    · exact ⟨_, rfl, "[UNK]", by decide, by decide⟩
  rcases lines_number_tokens hnodup hlines htext hfile [("unk", some (.oneOf ["<unk>", "[UNK]"]))]
    [] with ⟨_, hiff, hall⟩
  rcases hiff.2 hwishes with ⟨v, hv⟩
  rcases hall v hv with ⟨hsize, htoken, hget⟩
  exact ⟨v, hv, hsize, (hget _ _).2 rfl, (hget _ _).2 rfl, htoken 3⟩

end Vocabulary

end Subword
