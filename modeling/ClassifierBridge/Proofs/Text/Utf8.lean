import ClassifierBridge.Text.Utf8

/-!
# `ClassifierBridge.Proofs.Text.Utf8`: the bytes of a text

`Utf8.encode` is what a text looks like in memory, and `Utf8.decode?` reads it
back. The only character with a zero byte is NUL, whose byte is that zero, so a
text ends at a zero byte in memory exactly where it ends at a NUL.

* `isSecondOfThree_iff`, `isSecondOfFour_iff`: the second bytes as numbers.
* `decode?_encode`: reading undoes writing.
* `decode?_eq_some_iff`: what is read are the bytes of a text, and nothing else.
* `takeWhile_encode`: a zero byte is a NUL.
* `byteLength_takeWhile`: the place of the first NUL is that of the first zero.
-/

set_option autoImplicit false

namespace ClassifierBridge.Utf8

/-- The bytes of a text. -/
def encode (text : List Char) : List UInt8 := text.flatMap String.utf8EncodeChar

/-- The bytes of a text are those of its first character and of the others. -/
theorem encode_cons (c : Char) (text : List Char) :
    encode (c :: text) = String.utf8EncodeChar c ++ encode text := List.flatMap_cons

/-! ### Reading back -/

/-- A small number is a byte. -/
theorem toNat_byte {n : Nat} (hsmall : n < 256) : (UInt8.ofNat n).toNat = n := by
  rw [UInt8.toNat_ofNat']
  exact Nat.mod_eq_of_lt hsmall

/-- The range of the bytes that continue a sequence. -/
theorem isContinuation_iff (b : UInt8) :
    isContinuation b = true ↔ 0x80 ≤ b.toNat ∧ b.toNat ≤ 0xBF := by
  unfold isContinuation
  rw [Bool.and_eq_true, decide_eq_true_eq, decide_eq_true_eq]
  exact Iff.rfl

/-- The range of the second of three bytes, which depends on the first. -/
theorem isSecondOfThree_iff (lead b : UInt8) :
    isSecondOfThree lead b = true
      ↔ (if lead.toNat = 0xE0 then 0xA0 else 0x80) ≤ b.toNat
        ∧ b.toNat ≤ if lead.toNat = 0xED then 0x9F else 0xBF := by
  have hlong : lead = 0xE0 ↔ lead.toNat = 0xE0 := UInt8.toNat_inj.symm
  have hsurrogate : lead = 0xED ↔ lead.toNat = 0xED := UInt8.toNat_inj.symm
  unfold isSecondOfThree
  simp only [Bool.and_eq_true, decide_eq_true_eq, UInt8.le_iff_toNat_le, hlong, hsurrogate,
    apply_ite UInt8.toNat]
  exact Iff.rfl

/-- The range of the second of four bytes, which depends on the first. -/
theorem isSecondOfFour_iff (lead b : UInt8) :
    isSecondOfFour lead b = true
      ↔ (if lead.toNat = 0xF0 then 0x90 else 0x80) ≤ b.toNat
        ∧ b.toNat ≤ if lead.toNat = 0xF4 then 0x8F else 0xBF := by
  have hlong : lead = 0xF0 ↔ lead.toNat = 0xF0 := UInt8.toNat_inj.symm
  have hlarge : lead = 0xF4 ↔ lead.toNat = 0xF4 := UInt8.toNat_inj.symm
  unfold isSecondOfFour
  simp only [Bool.and_eq_true, decide_eq_true_eq, UInt8.le_iff_toNat_le, hlong, hlarge,
    apply_ite UInt8.toNat]
  exact Iff.rfl

/-! ### One sequence -/

section Sequence

variable {a b c d : UInt8} (rest : List UInt8)

/-- A byte that starts a longer sequence is no single one. -/
theorem not_lt_of_le {k : Nat} (hleast : 0x80 ≤ k) (hle : k ≤ a.toNat) : ¬ a < 0x80 := by
  rw [UInt8.lt_iff_toNat_lt]
  exact Nat.not_lt.mpr (Nat.le_trans hleast hle)

/-- A lead byte is in the range of a length, or not. -/
theorem range_iff (low high : UInt8) :
    (decide (low ≤ a) && decide (a ≤ high)) = true
      ↔ low.toNat ≤ a.toNat ∧ a.toNat ≤ high.toNat := by
  rw [Bool.and_eq_true, decide_eq_true_eq, decide_eq_true_eq, UInt8.le_iff_toNat_le,
    UInt8.le_iff_toNat_le]

/-- A sequence of one byte is its own character. -/
theorem decode?_one (hlead : a.toNat < 0x80) :
    decode? (a :: rest) = (decode? rest).map (Char.ofNat a.toNat :: ·) := by
  rw [decode?.eq_def]
  dsimp only
  rw [if_pos (UInt8.lt_iff_toNat_lt.mpr hlead)]

/-- A sequence of two bytes is read as one character. -/
theorem decode?_two (hlead : 0xC2 ≤ a.toNat ∧ a.toNat ≤ 0xDF) (hsecond : isContinuation b = true) :
    decode? (a :: b :: rest)
      = (decode? rest).map (Char.ofNat (a.toNat % 32 * 64 + payload b) :: ·) := by
  rw [decode?.eq_def]
  dsimp only
  rw [if_neg (not_lt_of_le (by decide) hlead.1), if_pos ((range_iff 0xC2 0xDF).mpr hlead),
    if_pos hsecond]

/-- A sequence of three bytes is read as one character. -/
theorem decode?_three (hlead : 0xE0 ≤ a.toNat ∧ a.toNat ≤ 0xEF)
    (hsecond : isSecondOfThree a b = true) (hthird : isContinuation c = true) :
    decode? (a :: b :: c :: rest)
      = (decode? rest).map
        (Char.ofNat (a.toNat % 16 * 4096 + payload b * 64 + payload c) :: ·) := by
  have hnotTwo : ¬ (decide (0xC2 ≤ a) && decide (a ≤ 0xDF)) = true := by
    rw [range_iff]
    show ¬ (_ ∧ a.toNat ≤ 0xDF)
    omega
  rw [decode?.eq_def]
  dsimp only
  rw [if_neg (not_lt_of_le (by decide) hlead.1), if_neg hnotTwo,
    if_pos ((range_iff 0xE0 0xEF).mpr hlead), hsecond, hthird]
  rfl

/-- A sequence of four bytes is read as one character. -/
theorem decode?_four (hlead : 0xF0 ≤ a.toNat ∧ a.toNat ≤ 0xF4)
    (hsecond : isSecondOfFour a b = true) (hthird : isContinuation c = true)
    (hfourth : isContinuation d = true) :
    decode? (a :: b :: c :: d :: rest)
      = (decode? rest).map
        (Char.ofNat (a.toNat % 8 * 262144 + payload b * 4096 + payload c * 64 + payload d)
          :: ·) := by
  have hnotTwo : ¬ (decide (0xC2 ≤ a) && decide (a ≤ 0xDF)) = true := by
    rw [range_iff]
    show ¬ (_ ∧ a.toNat ≤ 0xDF)
    omega
  have hnotThree : ¬ (decide (0xE0 ≤ a) && decide (a ≤ 0xEF)) = true := by
    rw [range_iff]
    show ¬ (_ ∧ a.toNat ≤ 0xEF)
    omega
  rw [decode?.eq_def]
  dsimp only
  rw [if_neg (not_lt_of_le (by decide) hlead.1), if_neg hnotTwo, if_neg hnotThree,
    if_pos ((range_iff 0xF0 0xF4).mpr hlead), hsecond, hthird, hfourth]
  rfl

end Sequence

/-! ### Reading undoes writing -/

/-- What is written behind the first byte continues a sequence. -/
theorem isContinuation_byte (n : Nat) :
    isContinuation (UInt8.ofNat (n % 0x40 + 0x80)) = true := by
  rw [isContinuation_iff, toNat_byte (by omega)]
  omega

/-- The bits that were written into a continuation are read from it. -/
theorem payload_byte (n : Nat) : payload (UInt8.ofNat (n % 0x40 + 0x80)) = n % 64 := by
  unfold payload
  rw [toNat_byte (by omega)]
  omega

/-- The bytes of a character are read as the character, whatever follows. -/
theorem decode?_encodeChar_append (c : Char) (rest : List UInt8) :
    decode? (String.utf8EncodeChar c ++ rest) = (decode? rest).map (c :: ·) := by
  have hcode : Char.ofNat c.val.toNat = c := Char.ofNat_toNat c
  have hrange : c.val.toNat < 0xD800 ∨ 0xDFFF < c.val.toNat ∧ c.val.toNat < 0x110000 := c.valid
  unfold String.utf8EncodeChar
  dsimp only
  generalize c.val.toNat = v at *
  -- One case for each length: the parts of the code point are put together again.
  split
  · next hone =>
      have hlead : (UInt8.ofNat v).toNat = v := toNat_byte (by omega)
      rw [List.singleton_append, decode?_one rest (by omega), hlead, hcode]
  split
  · next hnotOne htwo =>
      have hlead : (UInt8.ofNat (v / 64 % 0x20 + 0xc0)).toNat = v / 64 % 0x20 + 0xc0 :=
        toNat_byte (by omega)
      have hvalue : (v / 64 % 0x20 + 0xc0) % 32 * 64 + v % 64 = v := by omega
      rw [List.cons_append, List.singleton_append,
        decode?_two rest (by omega) (isContinuation_byte v), hlead, payload_byte, hvalue, hcode]
  split
  · next hnotOne hnotTwo hthree =>
      have hlead : (UInt8.ofNat (v / 4096 % 0x10 + 0xe0)).toNat = v / 4096 % 0x10 + 0xe0 :=
        toNat_byte (by omega)
      have hsecond : isSecondOfThree (UInt8.ofNat (v / 4096 % 0x10 + 0xe0))
          (UInt8.ofNat (v / 64 % 0x40 + 0x80)) = true := by
        rw [isSecondOfThree_iff, hlead, toNat_byte (by omega)]
        constructor
        · split <;> omega
        · split <;> omega
      have hvalue : (v / 4096 % 0x10 + 0xe0) % 16 * 4096 + v / 64 % 64 * 64 + v % 64 = v := by omega
      rw [List.cons_append, List.cons_append, List.singleton_append,
        decode?_three rest (by omega) hsecond (isContinuation_byte v), hlead, payload_byte,
        payload_byte, hvalue, hcode]
  · next hnotOne hnotTwo hnotThree =>
      have hlead : (UInt8.ofNat (v / 262144 % 0x08 + 0xf0)).toNat = v / 262144 % 0x08 + 0xf0 :=
        toNat_byte (by omega)
      have hsecond : isSecondOfFour (UInt8.ofNat (v / 262144 % 0x08 + 0xf0))
          (UInt8.ofNat (v / 4096 % 0x40 + 0x80)) = true := by
        rw [isSecondOfFour_iff, hlead, toNat_byte (by omega)]
        constructor
        · split <;> omega
        · split <;> omega
      have hvalue : (v / 262144 % 0x08 + 0xf0) % 8 * 262144 + v / 4096 % 64 * 4096
          + v / 64 % 64 * 64 + v % 64 = v := by omega
      rw [List.cons_append, List.cons_append, List.cons_append, List.singleton_append,
        decode?_four rest (by omega) hsecond (isContinuation_byte _) (isContinuation_byte v), hlead,
        payload_byte, payload_byte, payload_byte, hvalue, hcode]

/-- Reading undoes writing. -/
theorem decode?_encode (text : List Char) : decode? (encode text) = some text := by
  induction text with
  | nil => rfl
  | cons c text ih => rw [encode_cons, decode?_encodeChar_append, ih, Option.map_some]

/-! ### Nothing else is read -/

/-- A byte is known by its number. -/
theorem ofNat_eq_byte {n : Nat} {b : UInt8} (h : n = b.toNat) : UInt8.ofNat n = b := by
  rw [h, UInt8.ofNat_toNat]

/-- A number that is a code point is that of its character. -/
theorem val_ofNat {n : Nat} (hvalid : n.isValidChar) : (Char.ofNat n).val.toNat = n := by
  rw [Char.ofNat, dif_pos hvalid]
  rfl

section Sequence

variable {a b c d : UInt8}

/-- A character that was read from one byte is written as this byte. -/
theorem encodeChar_one (hlead : a.toNat < 0x80) :
    String.utf8EncodeChar (Char.ofNat a.toNat) = [a] := by
  have hvalid : a.toNat.isValidChar := .inl (by omega)
  simp only [String.utf8EncodeChar, val_ofNat hvalid]
  rw [if_pos (by omega), ofNat_eq_byte rfl]

/-- A character that was read from two bytes is written as these bytes. -/
theorem encodeChar_two (hlead : 0xC2 ≤ a.toNat ∧ a.toNat ≤ 0xDF)
    (hsecond : isContinuation b = true) :
    String.utf8EncodeChar (Char.ofNat (a.toNat % 32 * 64 + payload b)) = [a, b] := by
  rw [isContinuation_iff] at hsecond
  obtain ⟨v, hvalue⟩ : ∃ v, v = a.toNat % 32 * 64 + payload b := ⟨_, rfl⟩
  rw [← hvalue]
  unfold payload at hvalue
  have hvalid : v.isValidChar := .inl (by omega)
  simp only [String.utf8EncodeChar, val_ofNat hvalid]
  rw [if_neg (by omega), if_pos (by omega), ofNat_eq_byte (b := a) (by omega),
    ofNat_eq_byte (b := b) (by omega)]

/-- A character that was read from three bytes is written as these bytes. -/
theorem encodeChar_three (hlead : 0xE0 ≤ a.toNat ∧ a.toNat ≤ 0xEF)
    (hsecond : isSecondOfThree a b = true) (hthird : isContinuation c = true) :
    String.utf8EncodeChar (Char.ofNat (a.toNat % 16 * 4096 + payload b * 64 + payload c))
      = [a, b, c] := by
  rw [isContinuation_iff] at hthird
  rw [isSecondOfThree_iff] at hsecond
  have htail : 0x80 ≤ b.toNat ∧ b.toNat ≤ 0xBF := by
    split at hsecond <;> split at hsecond <;> omega
  obtain ⟨v, hvalue⟩ : ∃ v, v = a.toNat % 16 * 4096 + payload b * 64 + payload c := ⟨_, rfl⟩
  rw [← hvalue]
  unfold payload at hvalue
  -- What the range of the second byte excludes: two-byte values and surrogates.
  have hrange : 0x800 ≤ v ∧ v < 0x10000 ∧ (v < 0xD800 ∨ 0xDFFF < v) := by
    split at hsecond <;> split at hsecond <;> omega
  have hvalid : v.isValidChar := by
    unfold Nat.isValidChar
    omega
  simp only [String.utf8EncodeChar, val_ofNat hvalid]
  rw [if_neg (by omega), if_neg (by omega), if_pos (by omega), ofNat_eq_byte (b := a) (by omega),
    ofNat_eq_byte (b := b) (by omega), ofNat_eq_byte (b := c) (by omega)]

/-- A character that was read from four bytes is written as these bytes. -/
theorem encodeChar_four (hlead : 0xF0 ≤ a.toNat ∧ a.toNat ≤ 0xF4)
    (hsecond : isSecondOfFour a b = true) (hthird : isContinuation c = true)
    (hfourth : isContinuation d = true) :
    String.utf8EncodeChar
        (Char.ofNat (a.toNat % 8 * 262144 + payload b * 4096 + payload c * 64 + payload d))
      = [a, b, c, d] := by
  rw [isContinuation_iff] at hthird hfourth
  rw [isSecondOfFour_iff] at hsecond
  have htail : 0x80 ≤ b.toNat ∧ b.toNat ≤ 0xBF := by
    split at hsecond <;> split at hsecond <;> omega
  obtain ⟨v, hvalue⟩ : ∃ v, v = a.toNat % 8 * 262144 + payload b * 4096 + payload c * 64
      + payload d := ⟨_, rfl⟩
  rw [← hvalue]
  unfold payload at hvalue
  -- What the range of the second byte excludes: three-byte values and values above `10FFFF`.
  have hrange : 0x10000 ≤ v ∧ v < 0x110000 := by
    split at hsecond <;> split at hsecond <;> omega
  have hvalid : v.isValidChar := .inr (by omega)
  simp only [String.utf8EncodeChar, val_ofNat hvalid]
  rw [if_neg (by omega), if_neg (by omega), if_neg (by omega), ofNat_eq_byte (b := a) (by omega),
    ofNat_eq_byte (b := b) (by omega), ofNat_eq_byte (b := c) (by omega),
    ofNat_eq_byte (b := d) (by omega)]

end Sequence

/-- Bytes that are read are the bytes of what was read. -/
theorem encode_of_decode? {bytes : List UInt8} {text : List Char}
    (h : decode? bytes = some text) : encode text = bytes := by
  -- By induction on the sequences as they are read, one case for each length.
  fun_induction decode? bytes generalizing text with
  | case1 =>
      cases h
      rfl
  | case2 a rest hone ih =>
      obtain ⟨text, hread, rfl⟩ := Option.map_eq_some_iff.mp h
      rw [encode_cons, ih hread, encodeChar_one (UInt8.lt_iff_toNat_lt.mp hone),
        List.singleton_append]
  | case3 a hnotOne htwo b rest hsecond ih =>
      obtain ⟨text, hread, rfl⟩ := Option.map_eq_some_iff.mp h
      rw [encode_cons, ih hread, encodeChar_two ((range_iff 0xC2 0xDF).mp htwo) hsecond]
      rfl
  | case6 a hnotOne hnotTwo hthree b c rest htail ih =>
      obtain ⟨text, hread, rfl⟩ := Option.map_eq_some_iff.mp h
      obtain ⟨hsecond, hthird⟩ := Bool.and_eq_true_iff.mp htail
      rw [encode_cons, ih hread, encodeChar_three ((range_iff 0xE0 0xEF).mp hthree) hsecond hthird]
      rfl
  | case9 a hnotOne hnotTwo hnotThree hfour b c d rest htail ih =>
      obtain ⟨text, hread, rfl⟩ := Option.map_eq_some_iff.mp h
      obtain ⟨hfront, hfourth⟩ := Bool.and_eq_true_iff.mp htail
      obtain ⟨hsecond, hthird⟩ := Bool.and_eq_true_iff.mp hfront
      rw [encode_cons, ih hread,
        encodeChar_four ((range_iff 0xF0 0xF4).mp hfour) hsecond hthird hfourth]
      rfl
  -- The other bytes are refused.
  | case4 | case5 | case7 | case8 | case10 | case11 | case12 => cases h

/-- Bytes are read as a text if and only if they are the bytes of this text. -/
theorem decode?_eq_some_iff {bytes : List UInt8} {text : List Char} :
    decode? bytes = some text ↔ encode text = bytes := by
  constructor
  · exact encode_of_decode?
  · rintro rfl
    exact decode?_encode text

/-! ### Zero bytes -/

/-- Only NUL has a zero byte, and that byte is all it has. -/
theorem zero_not_mem_encodeChar {c : Char} (hother : c ≠ '\x00') :
    0 ∉ String.utf8EncodeChar c := by
  have hpos : 0 < c.val.toNat := by
    refine Nat.pos_of_ne_zero fun hzero => hother ?_
    exact Char.ext (UInt32.toNat_inj.mp hzero)
  have hbyte : ∀ n, 0 < n → n < 256 → (0 : UInt8) ≠ UInt8.ofNat n := by
    intro n hleast hsmall hzero
    have hsame := congrArg UInt8.toNat hzero
    rw [toNat_byte hsmall] at hsame
    exact Nat.ne_of_lt hleast hsame
  unfold String.utf8EncodeChar
  dsimp only
  generalize c.val.toNat = v at hpos
  -- Every byte of a longer sequence has its marker bits.
  split
  · next hone =>
      rw [List.mem_singleton]
      exact hbyte v hpos (by omega)
  split
  · simp only [List.mem_cons, List.not_mem_nil, or_false, not_or]
    exact ⟨hbyte _ (by omega) (by omega), hbyte _ (by omega) (by omega)⟩
  split
  · simp only [List.mem_cons, List.not_mem_nil, or_false, not_or]
    exact ⟨hbyte _ (by omega) (by omega), hbyte _ (by omega) (by omega),
      hbyte _ (by omega) (by omega)⟩
  · simp only [List.mem_cons, List.not_mem_nil, or_false, not_or]
    exact ⟨hbyte _ (by omega) (by omega), hbyte _ (by omega) (by omega),
      hbyte _ (by omega) (by omega), hbyte _ (by omega) (by omega)⟩

/-- The bytes before the first zero are those of the text before the first NUL. -/
theorem takeWhile_encode (text : List Char) :
    (encode text).takeWhile (· != 0) = encode (text.takeWhile (· != '\x00')) := by
  induction text with
  | nil => rfl
  | cons c text ih =>
      rw [encode_cons, List.takeWhile_cons]
      -- The text ends here, or none of the character's bytes is zero.
      by_cases hnul : c = '\x00'
      · rw [hnul]
        rfl
      · have hother : (c != '\x00') = true := bne_iff_ne.mpr hnul
        rw [if_pos hother, encode_cons, ← ih]
        refine List.takeWhile_append_of_pos fun b hmem => bne_iff_ne.mpr ?_
        rintro rfl
        exact zero_not_mem_encodeChar hnul hmem

/-- The bytes are as many as the sizes of the characters say. -/
theorem length_encode (text : List Char) : (encode text).length = byteLength text := by
  induction text with
  | nil => rfl
  | cons c text ih =>
      rw [encode_cons, List.length_append, String.length_utf8EncodeChar, ih, byteLength_cons]

/-- The place of the first NUL in a text is that of the first zero in memory. -/
theorem byteLength_takeWhile (text : List Char) :
    byteLength (text.takeWhile (· != '\x00')) = (encode text).idxOf 0 := by
  rw [← length_encode, ← takeWhile_encode]
  -- Up to the first zero both sides count bytes.
  induction encode text with
  | nil => rfl
  | cons b bytes ih =>
      rw [List.takeWhile_cons, List.idxOf_cons]
      by_cases hzero : b = 0
      · rw [hzero]
        rfl
      · have hother : (b == 0) = false := beq_eq_false_iff_ne.mpr hzero
        rw [show (b != 0) = true from bne_iff_ne.mpr hzero, if_pos rfl,
          hother, List.length_cons, ih]
        rfl

end ClassifierBridge.Utf8
