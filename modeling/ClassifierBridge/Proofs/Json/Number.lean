import ClassifierBridge.Json.Value
import ClassifierBridge.Proofs.Json.Grammar

/-!
# `ClassifierBridge.Proofs.Json.Number`: literals are read as the grammar has them

The scanners of `Literal` take one part of a literal each. Each takes a part of
the grammar (`scan…_sound`) and takes a whole part where nothing follows that
would belong to it (`scan…_complete`), so a literal is read as a whole wherever
something else than a continuation of it comes next (`EndsLiteral`).

* `Literal.scan_sound`, `Literal.scan_complete`: literals after their sign.
* `Literal.read_sound`, `Literal.read_complete`: the same with their values.
* `Literal.number_eq_natural_iff`, `Literal.number_eq_negative_iff`: which
  literals are integers, and which ones.
-/

set_option autoImplicit false

namespace ClassifierBridge.Json

/-- What may follow a literal: nothing that would continue it. -/
def EndsLiteral (s : List Char) : Prop :=
  ∀ c ∈ s.head?, c.isDigit = false ∧ c ≠ '.' ∧ c ≠ 'e' ∧ c ≠ 'E'

namespace Literal

/-! ### Digits -/

/-- The first character decides. -/
theorem startsWithDigit_cons (c : Char) (s : List Char) :
    startsWithDigit (c :: s) = c.isDigit := rfl

/-- Where a literal ends, no digit comes next. -/
theorem startsWithDigit_of_endsLiteral {s : List Char} (hends : EndsLiteral s) :
    startsWithDigit s = false := by
  cases s with
  | nil => rfl
  | cons c s => exact (hends c rfl).1

/-- Digits are split off up to the first character that is none. -/
theorem digits_append {ds rest : List Char} (hall : ∀ d ∈ ds, d.isDigit = true)
    (hstop : startsWithDigit rest = false) : digits (ds ++ rest) = (ds, rest) := by
  unfold digits
  rw [List.takeWhile_append_of_pos hall, List.dropWhile_append_of_pos hall]
  cases rest with
  | nil => simp only [List.takeWhile_nil, List.dropWhile_nil, List.append_nil]
  | cons c rest =>
      have hnotDigit : ¬ c.isDigit = true := by
        rw [← startsWithDigit_cons c rest, hstop]
        exact Bool.false_ne_true
      rw [List.takeWhile_cons_of_neg hnotDigit, List.dropWhile_cons_of_neg hnotDigit,
        List.append_nil]

/-- What is split off are digits, and no digit is left behind them. -/
theorem digits_sound {s ds rest : List Char} (h : digits s = (ds, rest)) :
    s = ds ++ rest ∧ (∀ d ∈ ds, d.isDigit = true) ∧ startsWithDigit rest = false := by
  cases h
  refine ⟨List.takeWhile_append_dropWhile.symm, List.all_eq_true.mp List.all_takeWhile, ?_⟩
  have hstop := List.head?_dropWhile_not Char.isDigit s
  rw [startsWithDigit]
  cases hnext : (s.dropWhile Char.isDigit).head? with
  | none => rfl
  | some c =>
      rw [hnext] at hstop
      exact hstop

/-- Where a digit comes next, at least one is split off. -/
theorem ne_nil_of_digits {s ds rest : List Char} (h : digits s = (ds, rest))
    (hdigit : startsWithDigit s = true) : ds ≠ [] := by
  rintro rfl
  obtain ⟨hsame, -, hstop⟩ := digits_sound h
  rw [hsame, List.nil_append, hstop] at hdigit
  cases hdigit

/-- The digits that have to come next are all digits up to something else. -/
theorem scanDigits_eq_ok_iff {s ds rest : List Char} :
    scanDigits s = .ok (ds, rest)
      ↔ s = ds ++ rest ∧ Digits ds ∧ startsWithDigit rest = false := by
  constructor
  · intro h
    unfold scanDigits at h
    split at h
    · cases h
    · split at h
      · next hdigit =>
          have hsplit := Except.ok.inj h
          obtain ⟨hsame, hall, hstop⟩ := digits_sound hsplit
          exact ⟨hsame, ⟨ne_nil_of_digits hsplit hdigit, hall⟩, hstop⟩
      · cases h
  · rintro ⟨rfl, ⟨hnonempty, hall⟩, hstop⟩
    obtain ⟨d, ds, rfl⟩ := List.exists_cons_of_ne_nil hnonempty
    have hdigit : startsWithDigit (d :: ds ++ rest) = true := hall d List.mem_cons_self
    rw [scanDigits, if_neg (by simp), if_pos hdigit, digits_append hall hstop]

/-! ### The parts of a literal -/

/-- The whole part of a literal is read exactly where one comes next and is not
continued. -/
theorem scanWhole_eq_ok_iff {s whole rest : List Char} :
    scanWhole s = .ok (whole, rest)
      ↔ s = whole ++ rest ∧ WholeDigits whole ∧ startsWithDigit rest = false := by
  constructor
  · intro h
    unfold scanWhole at h
    split at h
    · cases h
    · next c tail =>
        split at h
        · next hzero =>
            split at h
            · cases h
            · next hstop =>
                -- The zero has been taken alone, so what follows it is no digit.
                cases h
                subst hzero
                refine ⟨rfl, ⟨⟨List.cons_ne_nil _ _, ?_⟩, fun _ => rfl⟩,
                  Bool.eq_false_iff.mpr hstop⟩
                intro d hmem
                rw [List.mem_singleton.mp hmem]
                rfl
        · next hnotZero =>
            split at h
            · next hdigit =>
                have hsplit := Except.ok.inj h
                obtain ⟨hsame, hall, hstop⟩ := digits_sound hsplit
                have hnonempty := ne_nil_of_digits hsplit hdigit
                refine ⟨hsame, ⟨⟨hnonempty, hall⟩, ?_⟩, hstop⟩
                -- The part starts with the character that has just been told from a zero.
                intro hzero
                obtain ⟨d, ds, rfl⟩ := List.exists_cons_of_ne_nil hnonempty
                rw [List.cons_append, List.cons.injEq] at hsame
                rw [List.head?_cons, Option.some.injEq] at hzero
                exact absurd (hsame.1.trans hzero) hnotZero
            · cases h
  · rintro ⟨rfl, ⟨⟨hnonempty, hall⟩, halone⟩, hstop⟩
    obtain ⟨d, ds, rfl⟩ := List.exists_cons_of_ne_nil hnonempty
    have hdigit : d.isDigit = true := hall d List.mem_cons_self
    rw [List.cons_append, scanWhole]
    by_cases hzero : d = '0'
    · -- A zero that leads is the whole part.
      obtain ⟨rfl, rfl⟩ : d = '0' ∧ ds = [] := by
        rw [hzero] at halone
        exact ⟨hzero, (List.cons.inj (halone rfl)).2⟩
      rw [if_pos rfl, List.nil_append, hstop]
      rfl
    · rw [if_neg hzero, if_pos hdigit, ← List.cons_append, digits_append hall hstop]

/-- What is taken for a fraction is one, or is empty. -/
theorem scanFraction_sound {s ds rest : List Char} (h : scanFraction s = .ok (ds, rest)) :
    ∃ p, s = p ++ rest ∧ FractionSpelling p ds := by
  unfold scanFraction at h
  split at h
  · cases h
    exact ⟨[], rfl, .absent⟩
  · next c tail =>
      split at h
      · next hpoint =>
          obtain ⟨rfl, hdigits, -⟩ := scanDigits_eq_ok_iff.mp h
          subst hpoint
          exact ⟨'.' :: ds, rfl, .present hdigits⟩
      · cases h
        exact ⟨[], rfl, .absent⟩

/-- A fraction is taken to its last digit; an absent one is not found in what
follows. -/
theorem scanFraction_complete {p ds rest : List Char} (hspelled : FractionSpelling p ds)
    (hstop : startsWithDigit rest = false) (hpoint : rest.head? ≠ some '.') :
    scanFraction (p ++ rest) = .ok (ds, rest) := by
  cases hspelled with
  | absent =>
      cases rest with
      | nil => rfl
      | cons c rest =>
          have hother : ¬ c = '.' := fun hsame => hpoint (by rw [hsame, List.head?_cons])
          rw [List.nil_append, scanFraction, if_neg hother]
  | present hdigits =>
      rw [List.cons_append, scanFraction, if_pos rfl]
      exact scanDigits_eq_ok_iff.mpr ⟨rfl, hdigits, hstop⟩

/-- What is taken for the sign of an exponent is one, or is empty. -/
theorem scanSign_sound {s rest : List Char} {down : Bool} (h : scanSign s = (down, rest)) :
    ∃ p, s = p ++ rest ∧ SignSpelling p down := by
  unfold scanSign at h
  split at h
  · cases h
    exact ⟨[], rfl, .none⟩
  · next c tail =>
      split at h
      · next hminus =>
          cases h
          subst hminus
          exact ⟨['-'], rfl, .minus⟩
      · split at h
        · next hplus =>
            cases h
            subst hplus
            exact ⟨['+'], rfl, .plus⟩
        · cases h
          exact ⟨[], rfl, .none⟩

/-- Before the digits of an exponent, its sign is taken and nothing else. -/
theorem scanSign_complete {p ds rest : List Char} {down : Bool} (hspelled : SignSpelling p down)
    (hdigits : Digits ds) : scanSign (p ++ (ds ++ rest)) = (down, ds ++ rest) := by
  cases hspelled with
  | plus => rfl
  | minus => rfl
  | none =>
      obtain ⟨d, ds, rfl⟩ := List.exists_cons_of_ne_nil hdigits.1
      have hdigit : d.isDigit = true := hdigits.2 d List.mem_cons_self
      have hnotMinus : ¬ d = '-' := by rintro rfl; cases hdigit
      have hnotPlus : ¬ d = '+' := by rintro rfl; cases hdigit
      rw [List.nil_append, List.cons_append, scanSign, if_neg hnotMinus, if_neg hnotPlus]

/-- What is taken for an exponent is one, or is empty. -/
theorem scanExponent_sound {s rest : List Char} {exponent : Option (Bool × List Char)}
    (h : scanExponent s = .ok (exponent, rest)) :
    ∃ p, s = p ++ rest ∧ ExponentSpelling p exponent := by
  unfold scanExponent at h
  split at h
  · cases h
    exact ⟨[], rfl, .absent⟩
  · next mark tail =>
      split at h
      · next hletter =>
          obtain ⟨⟨ds, rest'⟩, hscanned, hsame⟩ := exists_of_map_eq_ok h
          cases hsame
          -- The sign always scans, if only as the absent one.
          obtain ⟨sign, hsigned, hspelled⟩ := scanSign_sound (s := tail) rfl
          obtain ⟨hafter, hdigits, -⟩ := scanDigits_eq_ok_iff.mp hscanned
          refine ⟨mark :: (sign ++ ds), ?_, .present hletter hspelled hdigits⟩
          rw [List.cons_append, List.append_assoc, ← hafter, ← hsigned]
      · cases h
        exact ⟨[], rfl, .absent⟩

/-- An exponent is taken to its last digit; an absent one is not found in what
follows. -/
theorem scanExponent_complete {p rest : List Char} {exponent : Option (Bool × List Char)}
    (hspelled : ExponentSpelling p exponent) (hends : EndsLiteral rest) :
    scanExponent (p ++ rest) = .ok (exponent, rest) := by
  cases hspelled with
  | absent =>
      cases rest with
      | nil => rfl
      | cons c rest =>
          -- What follows the literal is neither of the two letters.
          obtain ⟨-, -, hlower, hupper⟩ := hends c rfl
          have hother : ¬ (c = 'e' ∨ c = 'E') := fun heither => heither.elim hlower hupper
          rw [List.nil_append, scanExponent, if_neg hother]
  | @present mark sign ds down hletter hsigned hdigits =>
      have hscanned : scanDigits (ds ++ rest) = .ok (ds, rest) :=
        scanDigits_eq_ok_iff.mpr ⟨rfl, hdigits, startsWithDigit_of_endsLiteral hends⟩
      rw [List.cons_append, List.append_assoc, scanExponent, if_pos hletter,
        scanSign_complete hsigned hdigits]
      simp only [hscanned]
      rfl

/-- What begins with an exponent or with the end of a literal continues neither
the digits before it nor a fraction. -/
theorem startsWithDigit_exponent {p rest : List Char} {exponent : Option (Bool × List Char)}
    (hspelled : ExponentSpelling p exponent) (hends : EndsLiteral rest) :
    startsWithDigit (p ++ rest) = false ∧ (p ++ rest).head? ≠ some '.' := by
  cases hspelled with
  | absent =>
      refine ⟨startsWithDigit_of_endsLiteral hends, fun hpoint => ?_⟩
      exact (hends '.' hpoint).2.1 rfl
  | present hletter =>
      rw [List.cons_append, startsWithDigit_cons, List.head?_cons]
      rcases hletter with rfl | rfl
      · exact ⟨rfl, by decide⟩
      · exact ⟨rfl, by decide⟩

/-! ### Literals -/

/-- What is scanned is the spelling of the literal that is returned. -/
theorem scan_sound {negative : Bool} {s rest : List Char} {l : Literal}
    (h : scan negative s = .ok (l, rest)) :
    ∃ p, s = p ++ rest ∧ UnsignedSpelling negative p l := by
  unfold scan at h
  -- The three scanners run one after another, and each takes its part off the front.
  cases hwholeScan : scanWhole s with
  | error fault => rw [hwholeScan] at h; cases h
  | ok wholePart =>
      obtain ⟨whole, afterWhole⟩ := wholePart
      cases hfractionScan : scanFraction afterWhole with
      | error fault => simp only [hwholeScan, bind, Except.bind, hfractionScan] at h; cases h
      | ok fractionPart =>
          obtain ⟨fraction, afterFraction⟩ := fractionPart
          cases hexponentScan : scanExponent afterFraction with
          | error fault =>
              simp only [hwholeScan, bind, Except.bind, hfractionScan, hexponentScan] at h
              cases h
          | ok exponentPart =>
              simp only [hwholeScan, bind, Except.bind, hfractionScan, hexponentScan] at h
              cases h
              obtain ⟨rfl, hwholeDigits, -⟩ := scanWhole_eq_ok_iff.mp hwholeScan
              obtain ⟨p, rfl, hfractional⟩ := scanFraction_sound hfractionScan
              obtain ⟨q, rfl, hexponential⟩ := scanExponent_sound hexponentScan
              refine ⟨whole ++ (p ++ q), ?_, .parts hwholeDigits hfractional hexponential⟩
              simp only [List.append_assoc]

/-- The spelling of a literal is scanned to its end where nothing continues it. -/
theorem scan_complete {negative : Bool} {p rest : List Char} {l : Literal}
    (hspelled : UnsignedSpelling negative p l) (hends : EndsLiteral rest) :
    scan negative (p ++ rest) = .ok (l, rest) := by
  cases hspelled with
  | @parts whole fraction fractionDigits exponent _ hwholeDigits hfractional hexponential =>
      -- Each part ends where the next one, or what follows the literal, starts.
      obtain ⟨hnoDigit, hnoPoint⟩ := startsWithDigit_exponent hexponential hends
      have hafterWhole : startsWithDigit (fraction ++ (exponent ++ rest)) = false := by
        cases hfractional with
        | absent => exact hnoDigit
        | present => rfl
      have hwholeScan := scanWhole_eq_ok_iff.mpr ⟨rfl, hwholeDigits, hafterWhole⟩
      have hfractionScan := scanFraction_complete hfractional hnoDigit hnoPoint
      have hexponentScan := scanExponent_complete hexponential hends
      rw [List.append_assoc, List.append_assoc]
      simp only [scan, hwholeScan, bind, Except.bind, hfractionScan, hexponentScan]
      rfl

/-! ### Values -/

/-- The number that the digits before the point spell. -/
def wholeValue (l : Literal) : Nat := Nat.ofDigitChars 10 l.whole 0

/-- Digits that are appended to a number make it no smaller. -/
theorem le_ofDigitChars (ds : List Char) (n : Nat) : n ≤ Nat.ofDigitChars 10 ds n := by
  rw [Nat.ofDigitChars_eq_ofDigitChars_zero]
  have hgrows : 1 * n ≤ 10 ^ ds.length * n := Nat.mul_le_mul_right n (Nat.pow_pos (by decide))
  omega

/-- Digits that stay within the limit are all taken, and their number is the one
they spell. -/
theorem accumulate_of_le {limit n : Nat} {ds : List Char}
    (hfits : Nat.ofDigitChars 10 ds n ≤ limit) :
    accumulate limit n ds = (Nat.ofDigitChars 10 ds n, []) := by
  -- By induction on the digits: what is read so far stays below what is read in the end.
  induction ds generalizing n with
  | nil => rw [accumulate, Nat.ofDigitChars_nil]
  | cons d ds ih =>
      rw [Nat.ofDigitChars_cons] at hfits ⊢
      rw [accumulate, if_pos (Nat.le_trans (le_ofDigitChars ds _) hfits)]
      exact ih hfits

/-- Where no digit is left over, the number of all of them is within the limit. -/
theorem ofDigitChars_le_of_accumulate {limit n : Nat} {ds : List Char} (hstart : n ≤ limit)
    (hall : (accumulate limit n ds).2 = []) : Nat.ofDigitChars 10 ds n ≤ limit := by
  induction ds generalizing n with
  | nil => rw [Nat.ofDigitChars_nil]; exact hstart
  | cons d ds ih =>
      rw [accumulate] at hall
      rw [Nat.ofDigitChars_cons]
      split at hall
      · next hfits => exact ih hfits hall
      · -- A digit that does not fit is left over.
        cases hall

/-- An integer has neither fraction nor exponent, and its digits fit 64 bits. -/
theorem isInteger_iff (l : Literal) :
    l.isInteger = true
      ↔ l.fraction = [] ∧ l.exponent = none ∧ l.wholeValue ≤ digitLimit := by
  rw [isInteger, Bool.and_eq_true, Bool.and_eq_true, List.isEmpty_iff, Option.isNone_iff_eq_none,
    List.isEmpty_iff, and_assoc]
  constructor
  · rintro ⟨hfraction, hexponent, hall⟩
    exact ⟨hfraction, hexponent, ofDigitChars_le_of_accumulate (Nat.zero_le _) hall⟩
  · rintro ⟨hfraction, hexponent, hfits⟩
    exact ⟨hfraction, hexponent, by rw [accumulate_of_le hfits]⟩

/-- An integer is its own significand. -/
theorem significand_of_isInteger {l : Literal} (hinteger : l.isInteger = true) :
    l.significand = (l.wholeValue, 0) := by
  obtain ⟨hfraction, -, hfits⟩ := l.isInteger_iff.mp hinteger
  rw [significand, accumulate_of_le hfits, hfraction]
  rfl

/-- A literal that is no integer is worth a binary number, if anything. -/
theorem exists_real_of_number {l : Literal} {n : Number} (hother : l.isInteger = false)
    (h : l.number = .ok n) : ∃ x, n = .real x := by
  unfold number at h
  rw [hother] at h
  -- Both ways of writing a scaled number end in a real or in a fault.
  simp only [Bool.false_eq_true, if_false] at h
  repeat' split at h
  all_goals first
    | exact ⟨_, (Except.ok.inj h).symm⟩
    | cases h

/-- What an integer literal is worth: itself, unless it is the negative zero or
too small for a sign and 63 bits. -/
theorem number_of_isInteger {l : Literal} (hinteger : l.isInteger = true) :
    (l.negative = false ∧ l.number = .ok (.natural l.wholeValue))
      ∨ (l.negative = true ∧ 0 < l.wholeValue ∧ l.wholeValue ≤ negativeLimit
          ∧ l.number = .ok (.negative l.wholeValue))
      ∨ (l.negative = true ∧ (l.wholeValue = 0 ∨ negativeLimit < l.wholeValue)
          ∧ ∀ n, l.number = .ok n → ∃ x, n = .real x) := by
  obtain ⟨-, hexponent, -⟩ := l.isInteger_iff.mp hinteger
  unfold number
  rw [significand_of_isInteger hinteger, hexponent, hinteger]
  cases hsign : l.negative with
  | false => exact .inl ⟨rfl, rfl⟩
  | true =>
      right
      -- The digits alone cannot tell: `-0` and what a sign and 63 bits cannot hold are reals.
      by_cases hodd : l.wholeValue = 0 ∨ negativeLimit < l.wholeValue
      · refine .inr ⟨rfl, hodd, fun n h => ?_⟩
        simp only [if_true, Bool.not_true, Bool.false_eq_true, if_false, if_pos hodd] at h
        split at h
        · exact ⟨_, (Except.ok.inj h).symm⟩
        · cases h
      · refine .inl ⟨rfl, by omega, by omega, ?_⟩
        simp only [if_true, Bool.not_true, Bool.false_eq_true, if_false, if_neg hodd]

/-- The literals that are worth a natural number. -/
theorem number_eq_natural_iff {l : Literal} {n : Nat} :
    l.number = .ok (.natural n)
      ↔ l.fraction = [] ∧ l.exponent = none ∧ l.negative = false ∧ l.wholeValue = n
        ∧ n ≤ digitLimit := by
  cases hinteger : l.isInteger with
  | false =>
      constructor
      · intro h
        obtain ⟨x, hsame⟩ := exists_real_of_number hinteger h
        cases hsame
      · rintro ⟨hfraction, hexponent, -, rfl, hfits⟩
        rw [l.isInteger_iff.mpr ⟨hfraction, hexponent, hfits⟩] at hinteger
        cases hinteger
  | true =>
      obtain ⟨hfraction, hexponent, hfits⟩ := l.isInteger_iff.mp hinteger
      -- The sign decides among the three things that an integer can be worth.
      rcases number_of_isInteger hinteger with ⟨hsign, hvalue⟩ | ⟨hsign, -, -, hvalue⟩ |
        ⟨hsign, -, hvalue⟩
      · rw [hvalue]
        constructor
        · intro h
          cases h
          exact ⟨hfraction, hexponent, hsign, rfl, hfits⟩
        · rintro ⟨-, -, -, rfl, -⟩
          rfl
      · rw [hvalue, hsign]
        exact ⟨nofun, fun h => absurd h.2.2.1 (by decide)⟩
      · rw [hsign]
        refine ⟨fun h => ?_, fun h => absurd h.2.2.1 (by decide)⟩
        obtain ⟨x, hsame⟩ := hvalue _ h
        cases hsame

/-- The literals that are worth a negative integer; the negative zero is not
among them. -/
theorem number_eq_negative_iff {l : Literal} {n : Nat} :
    l.number = .ok (.negative n)
      ↔ l.fraction = [] ∧ l.exponent = none ∧ l.negative = true ∧ l.wholeValue = n
        ∧ 0 < n ∧ n ≤ negativeLimit := by
  cases hinteger : l.isInteger with
  | false =>
      constructor
      · intro h
        obtain ⟨x, hsame⟩ := exists_real_of_number hinteger h
        cases hsame
      · rintro ⟨hfraction, hexponent, -, rfl, -, hfits⟩
        -- The limit for negative integers is the smaller one.
        have hwithin : negativeLimit ≤ digitLimit := by decide
        rw [l.isInteger_iff.mpr ⟨hfraction, hexponent, Nat.le_trans hfits hwithin⟩] at hinteger
        cases hinteger
  | true =>
      obtain ⟨hfraction, hexponent, -⟩ := l.isInteger_iff.mp hinteger
      rcases number_of_isInteger hinteger with ⟨hsign, hvalue⟩ | ⟨hsign, hpos, hfits, hvalue⟩ |
        ⟨hsign, hodd, hvalue⟩
      · rw [hvalue, hsign]
        exact ⟨nofun, fun h => absurd h.2.2.1 (by decide)⟩
      · rw [hvalue]
        constructor
        · intro h
          cases h
          exact ⟨hfraction, hexponent, hsign, rfl, hpos, hfits⟩
        · rintro ⟨-, -, -, rfl, -, -⟩
          rfl
      · constructor
        · intro h
          obtain ⟨x, hsame⟩ := hvalue _ h
          cases hsame
        · rintro ⟨-, -, -, rfl, hpos, hfits⟩
          omega

/-! ### Reading -/

/-- What is read is the value of a literal that is spelled there. -/
theorem read_sound {negative : Bool} {s rest : List Char} {n : Number}
    (h : read negative s = .ok (n, rest)) :
    ∃ p l, s = p ++ rest ∧ UnsignedSpelling negative p l ∧ l.number = .ok n := by
  unfold read at h
  cases hscanned : scan negative s with
  | error fault => rw [hscanned] at h; cases h
  | ok part =>
      obtain ⟨l, after⟩ := part
      simp only [hscanned, bind, Except.bind] at h
      split at h
      · next hvalue =>
          cases h
          obtain ⟨p, hsame, hspelled⟩ := scan_sound hscanned
          exact ⟨p, l, hsame, hspelled, hvalue⟩
      · cases h

/-- A literal that has a value is read with it where nothing continues the literal. -/
theorem read_complete {negative : Bool} {p rest : List Char} {l : Literal} {n : Number}
    (hspelled : UnsignedSpelling negative p l) (hvalue : l.number = .ok n)
    (hends : EndsLiteral rest) : read negative (p ++ rest) = .ok (n, rest) := by
  simp only [read, scan_complete hspelled hends, bind, Except.bind, hvalue]
  rfl

end Literal

end ClassifierBridge.Json
