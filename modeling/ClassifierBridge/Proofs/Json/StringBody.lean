import ClassifierBridge.Json.Value
import ClassifierBridge.Proofs.Json.Grammar

/-!
# `ClassifierBridge.Proofs.Json.StringBody`: strings are read as the grammar has them

A string ends at a quote of its own, so nothing that follows it matters: each
reader of `StringBody` succeeds exactly on the texts that start with a spelling
of what it returns.

* `StringBody.readEscape_eq_ok_iff`: one escape.
* `StringBody.read_eq_ok_iff`: the characters up to the closing quote.
* `StringBody.spelling_write`: what the writer writes is a spelling.
-/

set_option autoImplicit false

namespace ClassifierBridge.Json.StringBody

/-! ### Hexadecimal digits -/

/-- What `hexValue?` says of the characters up to the last digit it knows. -/
private theorem hexValue?_of_lt : ∀ n < 103, ∀ v ∈ hexValue? (Char.ofNat n),
    HexDigit (Char.ofNat n) v := by
  unfold HexDigit
  decide

/-- Each value below sixteen has a digit in either case. -/
private theorem hexValue?_digitChar : ∀ v < 16,
    hexValue? (Nat.digitChar v) = some v ∧ hexValue? (Nat.digitChar v).toUpper = some v := by
  decide

/-- The digits that are known are those of the grammar, with their values. -/
theorem hexValue?_eq_some_iff {c : Char} {v : Nat} : hexValue? c = some v ↔ HexDigit c v := by
  constructor
  · intro h
    have hsmall : c.toNat < 103 := by
      have hle : ∀ {a b : Char}, a ≤ b → a.toNat ≤ b.toNat := fun hle => hle
      unfold hexValue? at h
      split at h
      · next hrange => exact Nat.lt_of_le_of_lt (hle hrange.2) (by decide)
      · split at h
        · next hrange => exact Nat.lt_of_le_of_lt (hle hrange.2) (by decide)
        · split at h
          · next hrange => exact Nat.lt_of_le_of_lt (hle hrange.2) (by decide)
          · cases h
    -- Digits lie among the first characters, where the table can be looked at as a whole.
    have hdigit := hexValue?_of_lt c.toNat hsmall v
    rw [Char.ofNat_toNat] at hdigit
    exact hdigit h
  · rintro ⟨hsmall, rfl | rfl⟩
    · exact (hexValue?_digitChar v hsmall).1
    · exact (hexValue?_digitChar v hsmall).2

/-- Four digits are worth what the grammar gives them. -/
theorem fourHexValue?_eq_some_iff {a b c d : Char} {n : Nat} :
    fourHexValue? a b c d = some n ↔ FourHex [a, b, c, d] n := by
  constructor
  · intro h
    simp only [fourHexValue?, bind, Option.bind_eq_some_iff, pure, Option.some.injEq] at h
    obtain ⟨va, hfirst, vb, hsecond, vc, hthird, vd, hfourth, rfl⟩ := h
    have hdigits := FourHex.digits (hexValue?_eq_some_iff.mp hfirst)
      (hexValue?_eq_some_iff.mp hsecond) (hexValue?_eq_some_iff.mp hthird)
      (hexValue?_eq_some_iff.mp hfourth)
    have hsame : va * 4096 + vb * 256 + vc * 16 + vd = ((va * 16 + vb) * 16 + vc) * 16 + vd := by
      omega
    rw [hsame] at hdigits
    exact hdigits
  · rintro ⟨hfirst, hsecond, hthird, hfourth⟩
    simp only [fourHexValue?, bind, Option.bind_eq_some_iff, pure, Option.some.injEq]
    refine ⟨_, hexValue?_eq_some_iff.mpr hfirst, _, hexValue?_eq_some_iff.mpr hsecond, _,
      hexValue?_eq_some_iff.mpr hthird, _, hexValue?_eq_some_iff.mpr hfourth, ?_⟩
    omega

/-- Every character takes a byte at least. -/
theorem length_le_byteLength (s : List Char) : s.length ≤ Utf8.byteLength s := by
  induction s with
  | nil => exact Nat.le_refl _
  | cons c s ih =>
      have hsize := c.utf8Size_pos
      rw [Utf8.byteLength_cons, List.length_cons]
      omega

/-- Four characters are enough bytes, whatever follows them. -/
theorem readHex_cons_cons_cons_cons (a b c d : Char) (rest : List Char) :
    readHex (a :: b :: c :: d :: rest) = match fourHexValue? a b c d with
      | some n => .ok (n, rest)
      | none => .error ⟨.invalidEscape, Utf8.byteLength (a :: b :: c :: d :: rest) - 4⟩ := by
  have hlong := length_le_byteLength (a :: b :: c :: d :: rest)
  simp only [List.length_cons] at hlong
  have henough : ¬ Utf8.byteLength (a :: b :: c :: d :: rest) < 4 := by omega
  exact if_neg henough

/-- Four digits are read exactly where they come next. -/
theorem readHex_eq_ok_iff {s rest : List Char} {n : Nat} :
    readHex s = .ok (n, rest) ↔ ∃ p, FourHex p n ∧ s = p ++ rest := by
  constructor
  · intro h
    -- Fewer than four characters are refused even if they take four bytes.
    rcases s with _ | ⟨a, _ | ⟨b, _ | ⟨c, _ | ⟨d, tail⟩⟩⟩⟩
    case cons.cons.cons.cons =>
      rw [readHex_cons_cons_cons_cons] at h
      cases hvalue : fourHexValue? a b c d with
      | none => rw [hvalue] at h; cases h
      | some m =>
          rw [hvalue] at h
          cases h
          exact ⟨[a, b, c, d], fourHexValue?_eq_some_iff.mp hvalue, rfl⟩
    all_goals
      unfold readHex at h
      split at h
      · cases h
      · cases h
  · rintro ⟨p, hdigits, rfl⟩
    cases hdigits with
    | digits hfirst hsecond hthird hfourth =>
        have hvalue := fourHexValue?_eq_some_iff.mpr (.digits hfirst hsecond hthird hfourth)
        simp only [List.cons_append, List.nil_append, readHex_cons_cons_cons_cons, hvalue]

/-! ### Escapes -/

/-- The first half of a pair, by its range. -/
theorem isLeadingSurrogate_iff {n : Nat} :
    isLeadingSurrogate n = true ↔ 0xD800 ≤ n ∧ n ≤ 0xDBFF := by
  rw [isLeadingSurrogate, Bool.and_eq_true, decide_eq_true_eq, decide_eq_true_eq]

/-- The second half of a pair, by its range. -/
theorem isTrailingSurrogate_iff {n : Nat} :
    isTrailingSurrogate n = true ↔ 0xDC00 ≤ n ∧ n ≤ 0xDFFF := by
  rw [isTrailingSurrogate, Bool.and_eq_true, decide_eq_true_eq, decide_eq_true_eq]

/-- The second half of a pair is read exactly where its escape comes next. -/
theorem readTrailing_eq_ok_iff {leading : Nat} {s rest : List Char} {c : Char} :
    readTrailing leading s = .ok (c, rest)
      ↔ ∃ p low, FourHex p low ∧ (0xDC00 ≤ low ∧ low ≤ 0xDFFF)
        ∧ s = '\\' :: 'u' :: (p ++ rest) ∧ c = pairedChar leading low := by
  constructor
  · intro h
    unfold readTrailing at h
    split at h
    · cases h
    · split at h
      · cases h
      · next hbackslash =>
          split at h
          · cases h
          · split at h
            · cases h
            · next hletter =>
                split at h
                · cases h
                · next hhex =>
                    split at h
                    · next hlow =>
                        -- The arithmetic of the pair must not be evaluated here.
                        obtain ⟨hchar, hafter⟩ := Prod.mk.inj (Except.ok.inj h)
                        obtain ⟨p, hdigits, rfl⟩ := readHex_eq_ok_iff.mp hhex
                        rw [Decidable.not_not.mp hbackslash, Decidable.not_not.mp hletter, hafter]
                        exact ⟨p, _, hdigits, isTrailingSurrogate_iff.mp hlow, rfl, hchar.symm⟩
                    · cases h
  · rintro ⟨p, low, hdigits, hrange, rfl, hsame⟩
    have hhex := readHex_eq_ok_iff.mpr ⟨p, hdigits, (rfl : p ++ rest = p ++ rest)⟩
    simp only [readTrailing, ne_eq, not_true_eq_false, if_false, hhex,
      isTrailingSurrogate_iff.mpr hrange, if_true, hsame]

/-- An escape by number is one unit that is no surrogate, or a pair of them. -/
theorem readUnicode_sound {s rest : List Char} {c : Char} (h : readUnicode s = .ok (c, rest)) :
    ∃ p, CharSpelling ('\\' :: 'u' :: p) c ∧ s = p ++ rest := by
  unfold readUnicode at h
  split at h
  · cases h
  · next n after hhex =>
      obtain ⟨p, hdigits, rfl⟩ := readHex_eq_ok_iff.mp hhex
      split at h
      · cases h
      · next hnotLow =>
          rw [isTrailingSurrogate_iff] at hnotLow
          split at h
          · next hhigh =>
              obtain ⟨q, low, hdigits', hrange, rfl, hsame⟩ := readTrailing_eq_ok_iff.mp h
              rw [hsame]
              refine ⟨p ++ '\\' :: 'u' :: q,
                .pair hdigits hdigits' (isLeadingSurrogate_iff.mp hhigh) hrange, ?_⟩
              simp only [List.append_assoc, List.cons_append]
          · next hnotHigh =>
              rw [isLeadingSurrogate_iff] at hnotHigh
              cases h
              exact ⟨p, .unit hdigits (by omega), rfl⟩

/-- The letters of escapes are those of the grammar. -/
theorem letterEscape?_eq_some_iff {letter c : Char} :
    letterEscape? letter = some c ↔ (letter, c) ∈ escapeLetters := by
  constructor
  · intro h
    unfold letterEscape? at h
    repeat' split at h
    all_goals cases h
    · next hitself =>
        rcases hitself with rfl | rfl | rfl
        all_goals decide
    all_goals
      subst letter
      decide
  · intro hmem
    have hall : ∀ p ∈ escapeLetters, letterEscape? p.1 = some p.2 := by decide
    exact hall (letter, c) hmem

/-- The letter of a `\u` escape is no letter of the others. -/
theorem ne_of_mem_escapeLetters {letter c : Char} (hescape : (letter, c) ∈ escapeLetters) :
    letter ≠ 'u' := by
  have hall : ∀ p ∈ escapeLetters, p.1 ≠ 'u' := by decide
  exact hall (letter, c) hescape

/-- Behind a backslash, an escape is read exactly where one comes next. -/
theorem readEscape_eq_ok_iff {s rest : List Char} {c : Char} :
    readEscape s = .ok (c, rest) ↔ ∃ p, CharSpelling ('\\' :: p) c ∧ s = p ++ rest := by
  constructor
  · intro h
    unfold readEscape at h
    split at h
    · cases h
    · next letter tail =>
        split at h
        · next hunicode =>
            obtain ⟨p, hspelled, rfl⟩ := readUnicode_sound h
            rw [hunicode]
            exact ⟨'u' :: p, hspelled, rfl⟩
        · split at h
          · next hescape =>
              cases h
              exact ⟨[letter], .letter (letterEscape?_eq_some_iff.mp hescape), rfl⟩
          · cases h
  · rintro ⟨p, hspelled, rfl⟩
    -- A spelling behind a backslash is a letter, a unit or a pair; the plain one is excluded.
    cases hspelled with
    | plain hquote hbackslash => exact absurd rfl hbackslash
    | @letter letter _ hescape =>
        have hother := ne_of_mem_escapeLetters hescape
        simp only [List.cons_append, readEscape, if_neg hother,
          letterEscape?_eq_some_iff.mpr hescape, List.nil_append]
    | @unit hex n hdigits hscalar =>
        have hread := readHex_eq_ok_iff.mpr ⟨hex, hdigits, (rfl : hex ++ rest = hex ++ rest)⟩
        have hnotLow : ¬ isTrailingSurrogate n = true := by rw [isTrailingSurrogate_iff]; omega
        have hnotHigh : ¬ isLeadingSurrogate n = true := by rw [isLeadingSurrogate_iff]; omega
        simp only [List.cons_append, readEscape, if_true, readUnicode, hread, if_neg hnotLow,
          if_neg hnotHigh]
    | @pair hex hex' high low hleading htrailing hhighRange hlowRange =>
        have hread := readHex_eq_ok_iff.mpr
          ⟨hex, hleading, (rfl : hex ++ '\\' :: 'u' :: (hex' ++ rest) = _)⟩
        have hnotLow : ¬ isTrailingSurrogate high = true := by
          rw [isTrailingSurrogate_iff]
          omega
        have hpaired : readTrailing high ('\\' :: 'u' :: (hex' ++ rest))
            = .ok (pairedChar high low, rest) :=
          readTrailing_eq_ok_iff.mpr ⟨hex', low, htrailing, hlowRange, rfl, rfl⟩
        simp only [List.cons_append, List.append_assoc, readEscape, if_true, readUnicode, hread,
          if_neg hnotLow, if_pos (isLeadingSurrogate_iff.mpr hhighRange), hpaired, pairedChar]

/-! ### Whole strings -/

/-- A quote ends the string. -/
theorem read_quote (rest : List Char) : read ('"' :: rest) = .ok ([], rest) := by
  rw [read, if_pos rfl]

/-- A spelled character is taken off the front. -/
theorem read_append_of_charSpelling {p : List Char} {c : Char} (hspelled : CharSpelling p c)
    (s : List Char) :
    read (p ++ s) = (read s).map fun (text, rest) => (c :: text, rest) := by
  -- Three of the four spellings are escapes, which `readEscape` takes as one.
  by_cases hescaped : p.head? = some '\\'
  · obtain ⟨q, rfl⟩ : ∃ q, p = '\\' :: q := by
      obtain ⟨head, q, rfl⟩ := List.exists_cons_of_ne_nil (l := p) (by rintro rfl; cases hescaped)
      rw [List.head?_cons, Option.some.injEq] at hescaped
      exact ⟨q, by rw [hescaped]⟩
    have hescape := readEscape_eq_ok_iff.mpr ⟨q, hspelled, (rfl : q ++ s = q ++ s)⟩
    rw [List.cons_append, read, if_neg (by decide), if_pos rfl]
    split
    · next hfailed =>
        rw [hescape] at hfailed
        cases hfailed
    · next hread =>
        rw [hescape] at hread
        cases hread
        rfl
  · cases hspelled with
    | plain hquote hbackslash hcontrol =>
        have hvisible : ¬ c < ' ' := fun hless => absurd hcontrol (Nat.not_le.mpr hless)
        rw [List.cons_append, List.nil_append, read, if_neg hquote, if_neg hbackslash,
          if_neg hvisible]
    | letter => exact absurd rfl hescaped
    | unit => exact absurd rfl hescaped
    | pair => exact absurd rfl hescaped

/-- A string is read exactly where its characters and the closing quote come
next. -/
theorem read_eq_ok_iff {s text rest : List Char} :
    read s = .ok (text, rest) ↔ ∃ p, TextSpelling p text ∧ s = p ++ '"' :: rest := by
  constructor
  · intro h
    -- By induction on what the reader takes: an escape or a plain character at each step.
    fun_induction read s generalizing text rest with
    | case1 => cases h
    | case2 tail =>
        cases h
        exact ⟨[], .nil, rfl⟩
    | case3 => cases h
    | case4 tail c after hescape _ ih =>
        obtain ⟨⟨text', rest'⟩, hread, hsame⟩ := exists_of_map_eq_ok h
        cases hsame
        obtain ⟨p, hspelled, rfl⟩ := readEscape_eq_ok_iff.mp hescape
        obtain ⟨q, hchars, rfl⟩ := ih hread
        refine ⟨('\\' :: p) ++ q, .cons hspelled hchars, ?_⟩
        simp only [List.cons_append, List.append_assoc]
    | case5 => cases h
    | case6 c tail hquote hbackslash hvisible ih =>
        obtain ⟨⟨text', rest'⟩, hread, hsame⟩ := exists_of_map_eq_ok h
        cases hsame
        obtain ⟨q, hchars, rfl⟩ := ih hread
        have hcontrol : 0x20 ≤ c.toNat := Nat.not_lt.mp hvisible
        exact ⟨[c] ++ q, .cons (.plain hquote hbackslash hcontrol) hchars, rfl⟩
  · rintro ⟨p, hspelled, rfl⟩
    -- By induction on the spelling: one character is taken off the front at each step.
    induction hspelled with
    | nil => exact read_quote rest
    | cons hchar hchars ih =>
        rw [List.append_assoc, read_append_of_charSpelling hchar, ih]
        rfl

/-! ### What the writer writes -/

/-- Every character is written as a spelling of itself, escaped where the grammar
asks for it. -/
theorem charSpelling_writeChar (c : Char) : CharSpelling (writeChar c) c := by
  by_cases hitself : c = '"' ∨ c = '\\'
  · rw [writeChar, if_pos hitself]
    refine .letter ?_
    rcases hitself with rfl | rfl
    · decide
    · decide
  · -- The characters with a letter of their own are looked at one by one.
    by_cases hnamed : c ∈ ['\x08', '\x0c', '\n', '\r', '\t']
    · have hall : ∀ c ∈ ['\x08', '\x0c', '\n', '\r', '\t'],
          ∃ p ∈ escapeLetters, p.2 = c ∧ writeChar c = ['\\', p.1] :=
        forall_mem_of_all (by decide)
      obtain ⟨⟨letter, _⟩, hescape, rfl, hwritten⟩ := hall c hnamed
      rw [hwritten]
      exact .letter hescape
    · simp only [List.mem_cons, List.not_mem_nil, or_false, not_or] at hnamed
      obtain ⟨hnotB, hnotF, hnotN, hnotR, hnotT⟩ := hnamed
      rw [writeChar, if_neg hitself, if_neg hnotB, if_neg hnotF, if_neg hnotN, if_neg hnotR,
        if_neg hnotT]
      rw [not_or] at hitself
      by_cases hcontrol : c < ' '
      · -- A control character without a letter is written as its two low digits behind zeros.
        have hsmall : c.toNat < 32 := hcontrol
        rw [if_pos hcontrol]
        have hzero : HexDigit '0' 0 := ⟨by decide, .inl rfl⟩
        have hdigits := FourHex.digits hzero hzero
          (⟨by omega, .inl rfl⟩ : HexDigit (Nat.digitChar (c.toNat / 16)) (c.toNat / 16))
          (⟨by omega, .inl rfl⟩ : HexDigit (Nat.digitChar (c.toNat % 16)) (c.toNat % 16))
        have hvalue : 0 * 4096 + 0 * 256 + c.toNat / 16 * 16 + c.toNat % 16 = c.toNat := by omega
        rw [hvalue] at hdigits
        have hspelled := CharSpelling.unit hdigits (.inl (by omega))
        rw [Char.ofNat_toNat] at hspelled
        exact hspelled
      · rw [if_neg hcontrol]
        exact .plain hitself.1 hitself.2 (Nat.not_lt.mp hcontrol)

/-- The characters of a text are written one after another. -/
theorem textSpelling_flatMap_writeChar (text : List Char) :
    TextSpelling (text.flatMap writeChar) text := by
  induction text with
  | nil => exact .nil
  | cons c text ih =>
      rw [List.flatMap_cons]
      exact .cons (charSpelling_writeChar c) ih

/-- What is written for a string spells it. -/
theorem spelling_write (text : List Char) : Spelling (write text) (.string text) :=
  .string (textSpelling_flatMap_writeChar text)

end ClassifierBridge.Json.StringBody
