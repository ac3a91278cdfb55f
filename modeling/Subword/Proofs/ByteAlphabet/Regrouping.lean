import Mathlib.Data.List.Nodup
import Subword.Proofs.ByteAlphabet
import Subword.Proofs.Text.Utf8.Kept

/-!
# Texts over the byte alphabet

A text can be written in characters that stand for its bytes, and these can be
put into groups in any way: the bytes of the groups are those of the text. In
the other direction, characters of the alphabet whose bytes are well-formed are
what the text that is read from them is written in. So the two ways undo each
other, and a row of characters never stands for a text that is written otherwise.

The alphabet is drawn up by going through the bytes once. A byte that is a
visible character keeps it, and each of the others gets the next character from
U+0100 on, which is above all the visible ones. That no two bytes share a
character is then seen from the way back.

## Main definitions

* `ByteAlphabet.numbered`: The characters of some bytes, drawn up in one pass.
* `ByteAlphabet.alphabet`: The characters of all bytes.

## Theorems

* `ByteAlphabet.numbered_range`: The pass gives every byte its character.
* `ByteAlphabet.map_symbol_bytes`: Characters of the alphabet come back from their bytes.
* `ByteAlphabet.regroup_roundTrip`: The two ways undo each other, however characters are grouped.
-/

namespace Subword

namespace ByteAlphabet

variable {c : Char} {s : List Char}

/-! ## The alphabet -/

/-- Whether a byte is a visible character of the first two hundred and fifty-six. -/
def standsForItself (b : Nat) : Bool :=
  0x21 ≤ b && b ≤ 0x7E || 0xA1 ≤ b && b ≤ 0xAC || 0xAE ≤ b && b ≤ 0xFF

/-- The code points for some bytes in order. Those that do not stand for themselves are numbered
    from `next` on. -/
def numbered (next : Nat) : List Nat → List Nat
  | [] => []
  | b :: rest =>
    if standsForItself b then b :: numbered next rest else next :: numbered (next + 1) rest

/-- The characters of the alphabet, in the order of their bytes. -/
def alphabet : List Char :=
  (numbered 0x100 (List.range 256)).map Char.ofNat

/-- Numbering the bytes gives every byte its character. -/
theorem numbered_range : numbered 0x100 (List.range 256) = (List.range 256).map symbolPoint := by
  decide +kernel

theorem alphabet_eq : alphabet = (List.range 256).map fun n => symbol (UInt8.ofNat n) := by
  rw [alphabet, numbered_range, List.map_map]
  refine List.map_congr_left fun n hn => ?_
  rw [symbol, Text.Utf8.toNat_ofNat (List.mem_range.1 hn)]
  rfl

theorem mem_alphabet_iff : c ∈ alphabet ↔ ∃ b, symbol b = c := by
  rw [alphabet_eq, List.mem_map]
  constructor
  · rintro ⟨n, _, rfl⟩
    exact ⟨UInt8.ofNat n, rfl⟩
  · rintro ⟨b, rfl⟩
    exact ⟨b.toNat, List.mem_range.2 (UInt8.toNat_lt b), by rw [UInt8.ofNat_toNat]⟩

/-- No two bytes have one character, since each comes back from its own. -/
theorem nodup_alphabet : alphabet.Nodup := by
  rw [alphabet_eq]
  refine List.Nodup.map_on ?_ List.nodup_range
  intro m hm n hn h
  have hbyte := byte?_symbol (UInt8.ofNat m)
  rw [h, byte?_symbol, Option.some.injEq] at hbyte
  have hnat := congrArg UInt8.toNat hbyte
  rw [Text.Utf8.toNat_ofNat (List.mem_range.1 hm), Text.Utf8.toNat_ofNat (List.mem_range.1 hn)]
    at hnat
  exact hnat.symm

theorem length_alphabet : alphabet.length = 256 := by
  rw [alphabet_eq, List.length_map, List.length_range]

/-! ## Both ways -/

theorem bytes_append (s t : List Char) : bytes (s ++ t) = bytes s ++ bytes t :=
  List.flatMap_append

/-- Groups of characters have the bytes that the characters have on their own. -/
theorem flatMap_bytes (groups : List (List Char)) :
    groups.flatMap bytes = bytes groups.flatten := by
  induction groups with
  | nil => rfl
  | cons group rest ih => rw [List.flatMap_cons, List.flatten_cons, bytes_append, ih]

/-- Characters of the alphabet come back from their bytes. -/
theorem map_symbol_bytes (h : ∀ c ∈ s, c ∈ alphabet) : (bytes s).map symbol = s := by
  induction s with
  | nil => rfl
  | cons c rest ih =>
    obtain ⟨b, rfl⟩ := mem_alphabet_iff.1 (h c List.mem_cons_self)
    have hrest := ih fun d hd => h d (List.mem_cons_of_mem _ hd)
    have hcons : bytes (symbol b :: rest) = bytesOfChar (symbol b) ++ bytes rest := rfl
    rw [hcons, bytesOfChar_symbol, List.map_append, hrest]
    rfl

/-- Characters of the alphabet are what a text is written in exactly if the text is read from
    their bytes. -/
theorem decode_bytes_iff (h : ∀ c ∈ s, c ∈ alphabet) {text : List Char} :
    Text.Utf8.decode (bytes s) = .ok text ↔ symbols text = s := by
  rw [Text.Utf8.decode_eq_ok_iff]
  constructor
  · intro hbytes
    rw [symbols, hbytes, map_symbol_bytes h]
  · rintro rfl
    exact (bytes_symbols text).symm

/-- The alphabet has a character of its own for every byte. Writing a text in its characters and
    reading it undo each other, and it does not matter how the characters are grouped. -/
theorem regroup_roundTrip :
    (alphabet.Nodup ∧ alphabet.length = 256) ∧
    (∀ text, (∀ c ∈ symbols text, c ∈ alphabet) ∧ bytes (symbols text) = Text.Utf8.encode text) ∧
    (∀ s t, bytes (s ++ t) = bytes s ++ bytes t) ∧
    (∀ s, (∀ c ∈ s, c ∈ alphabet) → ∀ text,
      (Text.Utf8.decode (bytes s) = .ok text ↔ symbols text = s)) ∧
    ∀ (text : List Char) (groups : List (List Char)), groups.flatten = symbols text →
      groups.flatMap bytes = Text.Utf8.encode text ∧
        Text.Utf8.decode (groups.flatMap bytes) = .ok text := by
  refine ⟨⟨nodup_alphabet, length_alphabet⟩, fun text => ⟨?_, bytes_symbols text⟩, bytes_append,
    fun s h text => decode_bytes_iff h, ?_⟩
  · intro c hc
    obtain ⟨b, _, rfl⟩ := List.mem_map.1 hc
    exact mem_alphabet_iff.2 ⟨b, rfl⟩
  · intro text groups hgroups
    have hbytes : groups.flatMap bytes = Text.Utf8.encode text := by
      rw [flatMap_bytes, hgroups, bytes_symbols]
    exact ⟨hbytes, Text.Utf8.decode_eq_ok_iff.2 hbytes.symm⟩

/-- A letter of two bytes, the characters of which are in two groups beside that of a space. -/
theorem regroup_roundTrip_of_split :
    symbols "é ".toList = "Ã©Ġ".toList ∧
    Text.Utf8.decode (bytes "Ã©Ġ".toList) = .ok "é ".toList ∧
    Text.Utf8.decode (["Ã".toList, "©Ġ".toList].flatMap bytes) = .ok "é ".toList := by
  have hsymbols : symbols "é ".toList = "Ã©Ġ".toList := by decide +kernel
  obtain ⟨-, htexts, -, hread, hgroups⟩ := regroup_roundTrip
  have halphabet : ∀ c ∈ "Ã©Ġ".toList, c ∈ alphabet := by
    rw [← hsymbols]
    exact (htexts _).1
  exact ⟨hsymbols, (hread _ halphabet _).2 hsymbols,
    (hgroups "é ".toList ["Ã".toList, "©Ġ".toList] hsymbols.symm).2⟩

end ByteAlphabet

end Subword
