import Subword.Text.Utf8

/-!
# UTF-8 comes back

What is written is read back as it was. The walk over the bytes of a character
starts with nothing in hand and ends with nothing in hand and one character
more, so the bytes of a text lead through its characters one by one, whatever
was read before.

The case of a character is that of the number of its bytes. The narrower bounds
of a second byte are met because the number of bytes is the least that is
enough, and because a character is neither a surrogate nor too large.

## Theorems

* `Utf8.foldl_encodeChar`: The bytes of a character are read as the character.
* `Utf8.pieces_encode`: The bytes of a text are read as its characters.
* `Utf8.decodeLossy_encode`: A text comes back from its bytes.
* `Utf8.decode_encode_chars`: Reading finds no fault in them.
-/

namespace Subword

namespace Text

namespace Utf8

theorem toNat_ofNat {n : Nat} (h : n < 256) : (UInt8.ofNat n).toNat = n :=
  UInt8.toNat_ofNat_of_lt' h

/-- A character is no surrogate and not too large. -/
theorem toNat_valid (c : Char) : c.toNat < 0xD800 ∨ 0xDFFF < c.toNat ∧ c.toNat < 0x110000 :=
  c.valid

/-! ## One byte -/

/-- A byte that begins a sequence is kept in hand. -/
theorem step_begin {n : Nat} {begun : Begun} (done : List Piece) (hn : n < 256)
    (hlow : 0x80 ≤ n) (h : begin? (UInt8.ofNat n) = some begun) :
    Walk.step ⟨none, done⟩ (UInt8.ofNat n) = ⟨some begun, done⟩ := by
  simp only [Walk.step, Walk.start, toNat_ofNat hn, if_neg (Nat.not_lt.2 hlow), h]

/-- A byte that continues a sequence of which more bytes are missing. -/
theorem step_more {n low high : Nat} (done : List Piece) (taken : List UInt8)
    (bits missing : Nat) (hn : n < 256) (hlow : low ≤ n) (hhigh : n ≤ high) :
    Walk.step ⟨some ⟨taken, bits, missing + 2, low, high⟩, done⟩ (UInt8.ofNat n)
      = ⟨some ⟨UInt8.ofNat n :: taken, bits * 64 + (n - 0x80), missing + 1, 0x80, 0xBF⟩,
          done⟩ := by
  have hin : (decide (low ≤ n) && decide (n ≤ high)) = true := by
    rw [decide_eq_true hlow, decide_eq_true hhigh]
    rfl
  have hmissing : ¬ missing + 2 ≤ 1 := by omega
  simp only [Walk.step, toNat_ofNat hn, if_pos hin, if_neg hmissing]
  rfl

/-- The last byte of a sequence makes a character. -/
theorem step_last {n low high : Nat} (done : List Piece) (taken : List UInt8) (bits : Nat)
    (hn : n < 256) (hlow : low ≤ n) (hhigh : n ≤ high) :
    Walk.step ⟨some ⟨taken, bits, 1, low, high⟩, done⟩ (UInt8.ofNat n)
      = ⟨none, .char (Char.ofNat (bits * 64 + (n - 0x80))) :: done⟩ := by
  have hin : (decide (low ≤ n) && decide (n ≤ high)) = true := by
    rw [decide_eq_true hlow, decide_eq_true hhigh]
    rfl
  simp only [Walk.step, toNat_ofNat hn, if_pos hin, if_pos (Nat.le_refl 1)]

/-! ## The first byte -/

theorem begin?_two {n : Nat} (hlow : 0xC2 ≤ n) (hhigh : n < 0xE0) :
    begin? (UInt8.ofNat n) = some ⟨[UInt8.ofNat n], n - 0xC0, 1, 0x80, 0xBF⟩ := by
  have hin : ¬ (decide (n < 0xC2) || decide (0xF4 < n)) = true := by
    rw [Bool.or_eq_true, decide_eq_true_eq, decide_eq_true_eq]
    omega
  simp only [begin?, toNat_ofNat (show n < 256 by omega), if_neg hin, if_pos hhigh]

theorem begin?_three {n : Nat} (hlow : 0xE0 ≤ n) (hhigh : n < 0xF0) :
    begin? (UInt8.ofNat n) = some ⟨[UInt8.ofNat n], n - 0xE0, 2,
      if n = 0xE0 then 0xA0 else 0x80, if n = 0xED then 0x9F else 0xBF⟩ := by
  have hin : ¬ (decide (n < 0xC2) || decide (0xF4 < n)) = true := by
    rw [Bool.or_eq_true, decide_eq_true_eq, decide_eq_true_eq]
    omega
  simp only [begin?, toNat_ofNat (show n < 256 by omega), if_neg hin,
    if_neg (Nat.not_lt.2 hlow), if_pos hhigh]

theorem begin?_four {n : Nat} (hlow : 0xF0 ≤ n) (hhigh : n ≤ 0xF4) :
    begin? (UInt8.ofNat n) = some ⟨[UInt8.ofNat n], n - 0xF0, 3,
      if n = 0xF0 then 0x90 else 0x80, if n = 0xF4 then 0x8F else 0xBF⟩ := by
  have hin : ¬ (decide (n < 0xC2) || decide (0xF4 < n)) = true := by
    rw [Bool.or_eq_true, decide_eq_true_eq, decide_eq_true_eq]
    omega
  simp only [begin?, toNat_ofNat (show n < 256 by omega), if_neg hin,
    if_neg (show ¬ n < 0xE0 by omega), if_neg (Nat.not_lt.2 hlow)]

/-! ## One character -/

theorem foldl_two {p : Nat} (done : List Piece) (hlow : 0x80 ≤ p) (hhigh : p < 0x800) :
    [UInt8.ofNat (0xC0 + p / 64), UInt8.ofNat (0x80 + p % 64)].foldl Walk.step ⟨none, done⟩
      = ⟨none, .char (Char.ofNat p) :: done⟩ := by
  have hbegin := @begin?_two (0xC0 + p / 64) (by omega) (by omega)
  have hbits : (0xC0 + p / 64 - 0xC0) * 64 + (0x80 + p % 64 - 0x80) = p := by omega
  rw [List.foldl_cons, step_begin done (by omega) (by omega) hbegin, List.foldl_cons,
    step_last done _ _ (by omega) (by omega) (by omega), List.foldl_nil, hbits]

theorem foldl_three {p : Nat} (done : List Piece) (hlow : 0x800 ≤ p) (hhigh : p < 0x10000)
    (hvalid : p < 0xD800 ∨ 0xDFFF < p) :
    [UInt8.ofNat (0xE0 + p / 4096), UInt8.ofNat (0x80 + p / 64 % 64),
        UInt8.ofNat (0x80 + p % 64)].foldl Walk.step ⟨none, done⟩
      = ⟨none, .char (Char.ofNat p) :: done⟩ := by
  have hbegin := @begin?_three (0xE0 + p / 4096) (by omega) (by omega)
  have hbits : ((0xE0 + p / 4096 - 0xE0) * 64 + (0x80 + p / 64 % 64 - 0x80)) * 64
      + (0x80 + p % 64 - 0x80) = p := by omega
  -- The number is not small enough for two bytes, and no surrogate.
  have hmin : (if 0xE0 + p / 4096 = 0xE0 then 0xA0 else 0x80) ≤ 0x80 + p / 64 % 64 := by
    split <;> omega
  have hmax : 0x80 + p / 64 % 64 ≤ if 0xE0 + p / 4096 = 0xED then 0x9F else 0xBF := by
    split <;> omega
  rw [List.foldl_cons, step_begin done (by omega) (by omega) hbegin, List.foldl_cons,
    step_more done _ _ 0 (by omega) hmin hmax, List.foldl_cons,
    step_last done _ _ (by omega) (by omega) (by omega), List.foldl_nil, hbits]

theorem foldl_four {p : Nat} (done : List Piece) (hlow : 0x10000 ≤ p) (hhigh : p < 0x110000) :
    [UInt8.ofNat (0xF0 + p / 262144), UInt8.ofNat (0x80 + p / 4096 % 64),
        UInt8.ofNat (0x80 + p / 64 % 64), UInt8.ofNat (0x80 + p % 64)].foldl Walk.step
          ⟨none, done⟩
      = ⟨none, .char (Char.ofNat p) :: done⟩ := by
  have hbegin := @begin?_four (0xF0 + p / 262144) (by omega) (by omega)
  have hbits : (((0xF0 + p / 262144 - 0xF0) * 64 + (0x80 + p / 4096 % 64 - 0x80)) * 64
      + (0x80 + p / 64 % 64 - 0x80)) * 64 + (0x80 + p % 64 - 0x80) = p := by omega
  have hmin : (if 0xF0 + p / 262144 = 0xF0 then 0x90 else 0x80) ≤ 0x80 + p / 4096 % 64 := by
    split <;> omega
  have hmax : 0x80 + p / 4096 % 64 ≤ if 0xF0 + p / 262144 = 0xF4 then 0x8F else 0xBF := by
    split <;> omega
  rw [List.foldl_cons, step_begin done (by omega) (by omega) hbegin, List.foldl_cons,
    step_more done _ _ 1 (by omega) hmin hmax, List.foldl_cons,
    step_more done _ _ 0 (by omega) (by omega) (by omega), List.foldl_cons,
    step_last done _ _ (by omega) (by omega) (by omega), List.foldl_nil, hbits]

/-- The bytes of a character are read as the character. -/
theorem foldl_encodeChar (c : Char) (done : List Piece) :
    (encodeChar c).foldl Walk.step ⟨none, done⟩ = ⟨none, .char c :: done⟩ := by
  have hvalid := toNat_valid c
  have hchar : Char.ofNat c.toNat = c := Char.ofNat_toNat c
  unfold encodeChar
  generalize c.toNat = p at hvalid hchar ⊢
  dsimp only
  by_cases hone : p < 0x80
  · rw [if_pos hone, List.foldl_cons, List.foldl_nil]
    simp only [Walk.step, Walk.start, toNat_ofNat (show p < 256 by omega), if_pos hone, hchar]
  · rw [if_neg hone, ← hchar]
    by_cases htwo : p < 0x800
    · rw [if_pos htwo]
      exact foldl_two done (by omega) htwo
    · rw [if_neg htwo]
      by_cases hthree : p < 0x10000
      · rw [if_pos hthree]
        exact foldl_three done (by omega) hthree (by omega)
      · rw [if_neg hthree]
        exact foldl_four done (by omega) (by omega)

/-! ## Texts -/

theorem encode_append (s t : List Char) : encode (s ++ t) = encode s ++ encode t :=
  List.flatMap_append

theorem foldl_encode (s : List Char) : ∀ done : List Piece,
    (encode s).foldl Walk.step ⟨none, done⟩ = ⟨none, (s.map Piece.char).reverse ++ done⟩ := by
  induction s with
  | nil =>
    intro done
    rfl
  | cons c rest ih =>
    intro done
    have hcons : encode (c :: rest) = encodeChar c ++ encode rest := List.flatMap_cons
    rw [hcons, List.foldl_append, foldl_encodeChar, ih, List.map_cons, List.reverse_cons,
      List.append_assoc, List.singleton_append]

/-- The bytes of a text are read as its characters. -/
theorem pieces_encode (s : List Char) : pieces (encode s) = s.map Piece.char := by
  unfold pieces
  rw [foldl_encode, List.append_nil]
  exact List.reverse_reverse _

/-- A text comes back from its bytes. -/
theorem decodeLossy_encode (s : List Char) : decodeLossy (encode s) = s := by
  unfold decodeLossy
  rw [pieces_encode, List.map_map]
  exact List.map_id s

theorem gather_chars (s : List Char) : ∀ (position : Nat) (done : List Char),
    gather position done (s.map Piece.char) = .ok (done.reverse ++ s) := by
  induction s with
  | nil =>
    intro position done
    rw [List.append_nil]
    rfl
  | cons c rest ih =>
    intro position done
    rw [List.map_cons, gather, ih, List.reverse_cons, List.append_assoc, List.singleton_append]

/-- Reading finds no fault in the bytes of a text. -/
theorem decode_encode_chars (s : List Char) : decode (encode s) = .ok s := by
  rw [decode, pieces_encode, gather_chars]
  rfl

end Utf8

end Text

end Subword
