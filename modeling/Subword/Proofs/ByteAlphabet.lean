import Subword.ByteAlphabet

/-!
# Bytes come back from their characters

Writing each byte as a character of the alphabet loses nothing. Both writing
and reading go byte by byte, so it does not matter how the characters of a text
are grouped into tokens.

## Theorems

* `ByteAlphabet.byte?_symbol`: A byte comes back from its character.
* `ByteAlphabet.symbols_append`: A text is written part by part.
* `ByteAlphabet.bytes_symbols`: The bytes of a text come back.
-/

namespace Subword

namespace ByteAlphabet

theorem symbolPoint_lt {b : Nat} (h : b < 256) : symbolPoint b < 0x144 := by
  unfold symbolPoint
  split
  · omega
  · split
    · omega
    · split
      · omega
      · split <;> omega

theorem toNat_symbol (b : UInt8) : (symbol b).toNat = symbolPoint b.toNat := by
  have hlt := symbolPoint_lt (UInt8.toNat_lt b)
  have hvalid : (symbolPoint b.toNat).isValidChar := Or.inl (by omega)
  unfold symbol
  rw [Char.ofNat, dif_pos hvalid]
  rfl

/-- A byte comes back from its character. -/
theorem byte?_symbol (b : UInt8) : byte? (symbol b) = some b := by
  unfold byte?
  rw [toNat_symbol, bytePoint?_symbolPoint _ (UInt8.toNat_lt b), Option.map_some,
    UInt8.ofNat_toNat]

theorem bytesOfChar_symbol (b : UInt8) : bytesOfChar (symbol b) = [b] := by
  simp only [bytesOfChar, byte?_symbol]

theorem symbols_append (s t : List Char) : symbols (s ++ t) = symbols s ++ symbols t := by
  simp only [symbols, Text.Utf8.encode, List.flatMap_append, List.map_append]

/-- The bytes of a text come back. -/
theorem bytes_symbols (s : List Char) : bytes (symbols s) = Text.Utf8.encode s := by
  unfold bytes symbols
  rw [List.flatMap_map]
  simp only [bytesOfChar_symbol, List.flatMap_singleton']

end ByteAlphabet

end Subword
