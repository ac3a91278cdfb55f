import Subword.Proofs.Text.PointSet
import Subword.Proofs.Text.Utf8

/-!
# Reading keeps the bytes

The walk over the bytes loses none of them. At every place the pieces so far and
the sequence in hand spell, one after the other, the bytes that have been taken.
Bytes that are read without a fault are therefore those of the text that is
read, and of no other text.

What has to be known of a sequence in hand is which characters it can still come
to. It leads to every code point that begins with the bits so far and has a next
byte within the bounds: such a code point is a character, and its bytes are
those in hand and then its last ones. A byte that continues the sequence only
picks among these code points.

## Main definitions

* `Utf8.Piece.bytes`: The bytes that a piece was read from.
* `Utf8.continuation`: The last bytes of a code point.
* `Utf8.Begun.Leads`: Whether a sequence leads to the characters that its bits
  and bounds leave open.

## Theorems

* `Utf8.leads_of_begin?`: A sequence that begins does.
* `Utf8.Begun.Leads.more`: So does one with a byte more.
* `Utf8.flatMap_bytes_pieces`: The pieces of some bytes spell them.
* `Utf8.decode_eq_ok_iff`: Bytes are read as a text exactly if they are those of the text.
-/

namespace Subword

namespace Text

namespace Utf8

/-- The bytes that a piece was read from. -/
def Piece.bytes : Piece → List UInt8
  | .char c => encodeChar c
  | .fault _ bytes => bytes

theorem Piece.bytes_char (c : Char) : (char c).bytes = encodeChar c :=
  rfl

theorem Piece.bytes_fault (reason : Reason) (bytes : List UInt8) :
    (fault reason bytes).bytes = bytes :=
  rfl

/-- The last bytes of a code point, six bits in each. -/
def continuation (point : Nat) : Nat → List UInt8
  | 0 => []
  | count + 1 => UInt8.ofNat (0x80 + point / 64 ^ count % 64) :: continuation point count

/-- Whether a sequence leads to every code point that its bits and its bounds leave open: the
    code point is a character, whose bytes are those in hand and then its last ones. -/
structure Begun.Leads (begun : Begun) : Prop where
  missing_pos : 0 < begun.missing
  low_ge : 0x80 ≤ begun.low
  high_le : begun.high ≤ 0xBF
  leads : ∀ point, point / 64 ^ begun.missing = begun.bits →
    begun.low ≤ 0x80 + point / 64 ^ (begun.missing - 1) % 64 →
    0x80 + point / 64 ^ (begun.missing - 1) % 64 ≤ begun.high →
    point.isValidChar ∧
      encodeChar (Char.ofNat point) = begun.taken.reverse ++ continuation point begun.missing

/-! ## The bytes of a code point -/

theorem encodeChar_two {p : Nat} (hlow : 0x80 ≤ p) (hhigh : p < 0x800) :
    encodeChar (Char.ofNat p) = UInt8.ofNat (0xC0 + p / 64) :: continuation p 1 := by
  have hvalid : p.isValidChar := Or.inl (by omega)
  simp only [encodeChar, toNat_charOfNat hvalid, continuation, Nat.pow_zero, Nat.div_one]
  rw [if_neg (by omega), if_pos hhigh]

theorem encodeChar_three {p : Nat} (hlow : 0x800 ≤ p) (hhigh : p < 0x10000)
    (hvalid : p.isValidChar) :
    encodeChar (Char.ofNat p) = UInt8.ofNat (0xE0 + p / 64 ^ 2) :: continuation p 2 := by
  simp only [encodeChar, toNat_charOfNat hvalid, continuation, Nat.pow_zero, Nat.div_one,
    Nat.pow_one]
  rw [if_neg (by omega), if_neg (by omega), if_pos hhigh]
  rfl

theorem encodeChar_four {p : Nat} (hlow : 0x10000 ≤ p) (hvalid : p.isValidChar) :
    encodeChar (Char.ofNat p) = UInt8.ofNat (0xF0 + p / 64 ^ 3) :: continuation p 3 := by
  simp only [encodeChar, toNat_charOfNat hvalid, continuation, Nat.pow_zero, Nat.div_one,
    Nat.pow_one]
  rw [if_neg (by omega), if_neg (by omega), if_neg (by omega)]
  rfl

/-! ## The sequence in hand -/

theorem ofNat_add_sub {b : UInt8} {base : Nat} (h : base ≤ b.toNat) :
    UInt8.ofNat (base + (b.toNat - base)) = b := by
  rw [Nat.add_sub_cancel' h, UInt8.ofNat_toNat]

/-- What a byte that begins a sequence begins: one of two, three or four bytes. -/
theorem begin?_cases {b : UInt8} {begun : Begun} (h : begin? b = some begun) :
    (0xC2 ≤ b.toNat ∧ b.toNat < 0xE0 ∧ begun = ⟨[b], b.toNat - 0xC0, 1, 0x80, 0xBF⟩) ∨
    (0xE0 ≤ b.toNat ∧ b.toNat < 0xF0 ∧ begun = ⟨[b], b.toNat - 0xE0, 2,
      if b.toNat = 0xE0 then 0xA0 else 0x80, if b.toNat = 0xED then 0x9F else 0xBF⟩) ∨
    (0xF0 ≤ b.toNat ∧ b.toNat ≤ 0xF4 ∧ begun = ⟨[b], b.toNat - 0xF0, 3,
      if b.toNat = 0xF0 then 0x90 else 0x80, if b.toNat = 0xF4 then 0x8F else 0xBF⟩) := by
  unfold begin? at h
  dsimp only at h
  split at h
  · cases h
  · next hbounds =>
    rw [Bool.or_eq_true, decide_eq_true_eq, decide_eq_true_eq] at hbounds
    split at h
    · cases h
      exact .inl ⟨by omega, by omega, rfl⟩
    · split at h
      · cases h
        exact .inr (.inl ⟨by omega, by omega, rfl⟩)
      · cases h
        exact .inr (.inr ⟨by omega, by omega, rfl⟩)

theorem taken_of_begin? {b : UInt8} {begun : Begun} (h : begin? b = some begun) :
    begun.taken = [b] := by
  obtain ⟨_, _, rfl⟩ | ⟨_, _, rfl⟩ | ⟨_, _, rfl⟩ := begin?_cases h <;> rfl

theorem leads_two {b : UInt8} (hlow : 0xC2 ≤ b.toNat) (hhigh : b.toNat < 0xE0) :
    Begun.Leads ⟨[b], b.toNat - 0xC0, 1, 0x80, 0xBF⟩ := by
  refine ⟨Nat.one_pos, Nat.le_refl _, Nat.le_refl _, ?_⟩
  intro p hbits _ _
  dsimp only at hbits
  rw [Nat.pow_one] at hbits
  refine ⟨Or.inl (by omega), ?_⟩
  rw [encodeChar_two (by omega) (by omega), hbits, ofNat_add_sub (by omega)]
  rfl

theorem leads_three {b : UInt8} (hlow : 0xE0 ≤ b.toNat) (hhigh : b.toNat < 0xF0) :
    Begun.Leads ⟨[b], b.toNat - 0xE0, 2, if b.toNat = 0xE0 then 0xA0 else 0x80,
      if b.toNat = 0xED then 0x9F else 0xBF⟩ := by
  refine ⟨Nat.two_pos, ?_, ?_, ?_⟩
  · dsimp only
    split <;> omega
  · dsimp only
    split <;> omega
  · intro p hbits hmin hmax
    dsimp only at hbits hmin hmax
    rw [Nat.pow_one] at hmin hmax
    -- The bounds of the second byte leave out short spellings and surrogates.
    have hleast : 0x800 ≤ p := by
      split at hmin <;> omega
    have hvalid : p.isValidChar := by
      unfold Nat.isValidChar
      split at hmax <;> omega
    refine ⟨hvalid, ?_⟩
    rw [encodeChar_three hleast (by omega) hvalid, hbits, ofNat_add_sub hlow]
    rfl

theorem leads_four {b : UInt8} (hlow : 0xF0 ≤ b.toNat) (hhigh : b.toNat ≤ 0xF4) :
    Begun.Leads ⟨[b], b.toNat - 0xF0, 3, if b.toNat = 0xF0 then 0x90 else 0x80,
      if b.toNat = 0xF4 then 0x8F else 0xBF⟩ := by
  refine ⟨Nat.succ_pos 2, ?_, ?_, ?_⟩
  · dsimp only
    split <;> omega
  · dsimp only
    split <;> omega
  · intro p hbits hmin hmax
    dsimp only at hbits hmin hmax
    have hleast : 0x10000 ≤ p := by
      split at hmin <;> omega
    have hvalid : p.isValidChar := by
      unfold Nat.isValidChar
      split at hmax <;> omega
    refine ⟨hvalid, ?_⟩
    rw [encodeChar_four hleast hvalid, hbits, ofNat_add_sub hlow]
    rfl

/-- A sequence that begins leads to what its bounds leave open. -/
theorem leads_of_begin? {b : UInt8} {begun : Begun} (h : begin? b = some begun) :
    begun.Leads := by
  obtain ⟨hlow, hhigh, rfl⟩ | ⟨hlow, hhigh, rfl⟩ | ⟨hlow, hhigh, rfl⟩ := begin?_cases h
  · exact leads_two hlow hhigh
  · exact leads_three hlow hhigh
  · exact leads_four hlow hhigh

namespace Begun.Leads

variable {begun : Begun} {b : UInt8}

/-- The code points left open by one byte more are among those left open before. -/
theorem next (h : begun.Leads) (hlow : begun.low ≤ b.toNat) (hhigh : b.toNat ≤ begun.high)
    {point : Nat}
    (hbits : point / 64 ^ (begun.missing - 1) = begun.bits * 64 + (b.toNat - 0x80)) :
    point.isValidChar ∧ encodeChar (Char.ofNat point)
      = (b :: begun.taken).reverse ++ continuation point (begun.missing - 1) := by
  have hlow80 := h.low_ge
  have hhighBF := h.high_le
  obtain ⟨count, hcount⟩ : ∃ count, begun.missing = count + 1 :=
    ⟨begun.missing - 1, (Nat.succ_pred_eq_of_pos h.missing_pos).symm⟩
  have hleads := h.leads point
  rw [hcount, Nat.add_sub_cancel] at hbits hleads ⊢
  have hbyte : 0x80 + point / 64 ^ count % 64 = b.toNat := by omega
  rw [Nat.pow_succ, ← Nat.div_div_eq_div_mul, hbyte] at hleads
  obtain ⟨hvalid, hbytes⟩ := hleads (by omega) hlow hhigh
  refine ⟨hvalid, ?_⟩
  rw [hbytes, continuation, hbyte, UInt8.ofNat_toNat, List.reverse_cons, List.append_assoc,
    List.singleton_append]

/-- A sequence with one byte more leads to what is still open. -/
theorem more (h : begun.Leads) (hlow : begun.low ≤ b.toNat) (hhigh : b.toNat ≤ begun.high)
    (hmissing : 1 < begun.missing) :
    Leads ⟨b :: begun.taken, begun.bits * 64 + (b.toNat - 0x80), begun.missing - 1, 0x80, 0xBF⟩ :=
  ⟨Nat.sub_pos_of_lt hmissing, Nat.le_refl _, Nat.le_refl _,
    fun _ hbits _ _ => h.next hlow hhigh hbits⟩

/-- The last byte of a sequence makes the character that it was the sequence of. -/
theorem last (h : begun.Leads) (hlow : begun.low ≤ b.toNat) (hhigh : b.toNat ≤ begun.high)
    (hmissing : begun.missing ≤ 1) :
    encodeChar (Char.ofNat (begun.bits * 64 + (b.toNat - 0x80))) = (b :: begun.taken).reverse := by
  have hone : begun.missing - 1 = 0 := Nat.sub_eq_zero_of_le hmissing
  have hbits : (begun.bits * 64 + (b.toNat - 0x80)) / 64 ^ (begun.missing - 1)
      = begun.bits * 64 + (b.toNat - 0x80) := by
    rw [hone, Nat.pow_zero, Nat.div_one]
  have hnext := (h.next hlow hhigh hbits).2
  rwa [hone, continuation, List.append_nil] at hnext

end Begun.Leads

/-! ## The walk -/

/-- The bytes of some pieces that are in reverse. -/
def bytesOf (done : List Piece) : List UInt8 :=
  done.reverse.flatMap Piece.bytes

theorem bytesOf_cons (piece : Piece) (done : List Piece) :
    bytesOf (piece :: done) = bytesOf done ++ piece.bytes := by
  rw [bytesOf, List.reverse_cons, List.flatMap_append, List.flatMap_singleton]
  rfl

/-- Whether the pieces of a walk and then the sequence in hand spell some bytes, and the sequence
    leads to what it leaves open. -/
structure Walk.Spells (walk : Walk) (bytes : List UInt8) : Prop where
  spells : bytesOf walk.done ++ (walk.begun.elim [] fun begun => begun.taken.reverse) = bytes
  leads : ∀ begun ∈ walk.begun, begun.Leads

namespace Walk

variable {walk : Walk} {bytes : List UInt8}

/-- A walk with nothing in hand spells what its pieces do. -/
theorem spells_done (done : List Piece) : Spells ⟨none, done⟩ (bytesOf done) :=
  ⟨List.append_nil _, fun _ h => absurd h (Option.not_mem_none _)⟩

/-- With nothing in hand, a byte is spelled by what it is taken for. -/
theorem start_spells (done : List Piece) (b : UInt8) :
    (start done b).Spells (bytesOf done ++ [b]) := by
  unfold start
  split
  · next hone =>
    have hvalid : b.toNat.isValidChar := Or.inl (by omega)
    have hbytes : encodeChar (Char.ofNat b.toNat) = [b] := by
      rw [encodeChar, toNat_charOfNat hvalid, if_pos hone, UInt8.ofNat_toNat]
    rw [← hbytes, ← Piece.bytes_char, ← bytesOf_cons]
    exact spells_done _
  · split
    · next begun hbegin =>
      refine ⟨?_, fun _ h => Option.mem_some.1 h ▸ leads_of_begin? hbegin⟩
      rw [Option.elim_some, taken_of_begin? hbegin]
      rfl
    · have hfault := spells_done (.fault .start [b] :: done)
      rwa [bytesOf_cons, Piece.bytes_fault] at hfault

/-- A walk that spells some bytes spells one more after a step. -/
theorem Spells.step (h : walk.Spells bytes) (b : UInt8) :
    (walk.step b).Spells (bytes ++ [b]) := by
  obtain ⟨begun?, done⟩ := walk
  obtain ⟨rfl, hleads⟩ := h
  cases begun? with
  | none =>
    rw [Option.elim_none, List.append_nil]
    exact start_spells done b
  | some begun =>
    have hbegun : begun.Leads := hleads begun rfl
    dsimp only [Walk.step, Option.elim_some]
    split
    · next hin =>
      rw [Bool.and_eq_true, decide_eq_true_eq, decide_eq_true_eq] at hin
      rw [List.append_assoc, ← List.reverse_cons]
      split
      · next hmissing =>
        rw [← hbegun.last hin.1 hin.2 hmissing, ← Piece.bytes_char, ← bytesOf_cons]
        exact spells_done _
      · next hmissing =>
        exact ⟨rfl, fun _ h =>
          Option.mem_some.1 h ▸ hbegun.more hin.1 hin.2 (Nat.lt_of_not_le hmissing)⟩
    · -- The sequence ends as a fault, and the byte is taken with nothing in hand.
      have hfault := start_spells (.fault .continuation begun.taken.reverse :: done) b
      rwa [bytesOf_cons, Piece.bytes_fault] at hfault

/-- A walk over some more bytes spells these as well. -/
theorem Spells.foldl (h : walk.Spells bytes) (more : List UInt8) :
    (more.foldl Walk.step walk).Spells (bytes ++ more) := by
  induction more generalizing walk bytes with
  | nil =>
    rw [List.append_nil]
    exact h
  | cons b more ih =>
    have hstep := ih (h.step b)
    rwa [List.append_assoc, List.singleton_append] at hstep

/-- The pieces of a walk that is over spell all of its bytes. -/
theorem Spells.finish (h : walk.Spells bytes) : walk.finish.flatMap Piece.bytes = bytes := by
  obtain ⟨begun?, done⟩ := walk
  obtain ⟨rfl, -⟩ := h
  cases begun? with
  | none => exact (List.append_nil _).symm
  | some begun => exact bytesOf_cons _ _

end Walk

/-- The pieces of some bytes spell them. -/
theorem flatMap_bytes_pieces (bytes : List UInt8) : (pieces bytes).flatMap Piece.bytes = bytes :=
  ((Walk.spells_done []).foldl bytes).finish

/-! ## Bytes without a fault -/

/-- Pieces that have no fault among them are characters. -/
theorem eq_map_of_gather {pieces : List Piece} {position : Nat} {done text : List Char}
    (h : gather position done pieces = .ok text) :
    ∃ s, pieces = s.map Piece.char ∧ text = done.reverse ++ s := by
  induction pieces generalizing position done with
  | nil =>
    cases h
    exact ⟨[], rfl, (List.append_nil _).symm⟩
  | cons piece rest ih =>
    cases piece with
    | char c =>
      obtain ⟨s, rfl, rfl⟩ := ih h
      exact ⟨c :: s, rfl, by rw [List.reverse_cons, List.append_assoc, List.singleton_append]⟩
    | fault reason bytes => cases h

/-- Bytes that are read as a text are the bytes of the text. -/
theorem encode_of_decode {bytes : List UInt8} {text : List Char} (h : decode bytes = .ok text) :
    encode text = bytes := by
  obtain ⟨s, hpieces, htext⟩ := eq_map_of_gather h
  calc encode text
      = (s.map Piece.char).flatMap Piece.bytes := by
        rw [htext, List.flatMap_map]
        rfl
    _ = bytes := by rw [← hpieces, flatMap_bytes_pieces]

/-- Bytes are read as a text exactly if they are those of the text. -/
theorem decode_eq_ok_iff {bytes : List UInt8} {text : List Char} :
    decode bytes = .ok text ↔ encode text = bytes :=
  ⟨encode_of_decode, fun h => h ▸ decode_encode_chars text⟩

end Utf8

end Text

end Subword
