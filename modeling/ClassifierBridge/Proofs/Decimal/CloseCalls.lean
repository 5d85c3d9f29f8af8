import ClassifierBridge.Proofs.Binary.Midpoint
import ClassifierBridge.Proofs.Decimal.Shortest
import Mathlib.Tactic.LinearCombination
import Mathlib.Tactic.Linarith

/-!
# `ClassifierBridge.Proofs.Decimal.CloseCalls`: decimals next to a midpoint

A midpoint between two numbers of 32 bits is an odd multiple `m * 2 ^ q` of a
power of two. A decimal `n * 10 ^ e` of at most eight digits can be a midpoint
itself, but hardly ever lies so close to one that an error of a few units of 64
bits could carry it across: over the whole range of the format there are only
the twenty-seven `closeCalls`.

For fixed exponents this is a question about two natural numbers `n`, `m` and a
ratio `a / c`: how small can `n * a - m * c` be? `Around` holds two neighbouring
fractions with the ratio between them. Every pair `(n, m)` is a combination of
the two, and where `n * a` and `m * c` are close, it is one with few and small
coefficients, which can be tried out one by one.

* `Around.exists_combination`: close pairs are small combinations.
* `near_cases`: for every pair of exponents, what is near is equal or a close
  call.
* `midpoint_cases`: a decimal near a midpoint is the midpoint or a close call.
-/

set_option autoImplicit false

namespace ClassifierBridge

/-! ### Neighbouring fractions -/

/-- Neighbouring fractions around the ratio `a / c`, the lower one at or below
it, with what they miss the ratio by. -/
structure Around (a c : Nat) where
  lowNum : Nat
  lowDen : Nat
  lowGap : Nat
  highNum : Nat
  highDen : Nat
  highGap : Nat
  low : lowDen * a = lowNum * c + lowGap
  high : highDen * a + highGap = highNum * c
  neighbours : lowDen * highNum = lowNum * highDen + 1

namespace Around

variable {a c : Nat}

/-- The whole part of the ratio, and no bound above. -/
def start (a c : Nat) : Around a c where
  lowNum := a / c
  lowDen := 1
  lowGap := a % c
  highNum := 1
  highDen := 0
  highGap := c
  low := by rw [Nat.one_mul, Nat.div_add_mod']
  high := by rw [Nat.zero_mul, Nat.zero_add, Nat.one_mul]
  neighbours := by rw [Nat.mul_zero, Nat.mul_one]

/-- Moves the lower fraction `k` steps towards the upper one. -/
def raise (r : Around a c) (k : Nat) (hfits : k * r.highGap ≤ r.lowGap) : Around a c :=
  { r with
    lowNum := r.lowNum + k * r.highNum
    lowDen := r.lowDen + k * r.highDen
    lowGap := r.lowGap - k * r.highGap
    low := by
      have hlow := r.low
      have hhigh := congrArg (k * ·) r.high
      rw [Nat.mul_add, ← Nat.mul_assoc, ← Nat.mul_assoc] at hhigh
      rw [Nat.add_mul, Nat.add_mul]
      omega
    neighbours := by
      have hneighbours := r.neighbours
      rw [Nat.add_mul, Nat.add_mul, Nat.mul_assoc, Nat.mul_assoc, Nat.mul_comm r.highDen]
      omega }

/-- Moves the upper fraction `k` steps towards the lower one. -/
def lower (r : Around a c) (k : Nat) (hfits : k * r.lowGap ≤ r.highGap) : Around a c :=
  { r with
    highNum := r.highNum + k * r.lowNum
    highDen := r.highDen + k * r.lowDen
    highGap := r.highGap - k * r.lowGap
    high := by
      have hhigh := r.high
      have hlow := congrArg (k * ·) r.low
      rw [Nat.mul_add, ← Nat.mul_assoc, ← Nat.mul_assoc] at hlow
      rw [Nat.add_mul, Nat.add_mul]
      omega
    neighbours := by
      have hneighbours := r.neighbours
      have hswapped : r.lowDen * (k * r.lowNum) = r.lowNum * (k * r.lowDen) := by
        rw [Nat.mul_left_comm, Nat.mul_comm r.lowDen, ← Nat.mul_left_comm]
      rw [Nat.mul_add, Nat.mul_add]
      omega }

/-- Moves the fraction that misses the ratio by more towards the other one, again
and again, with denominators up to a limit. -/
def narrow (limit : Nat) : Nat → Around a c → Around a c
  | 0, r => r
  | fuel + 1, r =>
    if r.highGap ≤ r.lowGap then
      narrow limit fuel (r.raise (min (r.lowGap / r.highGap) ((limit - r.lowDen) / r.highDen))
        (Nat.le_trans (Nat.mul_le_mul_right _ (Nat.min_le_left _ _)) (Nat.div_mul_le_self _ _)))
    else
      narrow limit fuel (r.lower (min (r.highGap / r.lowGap) ((limit - r.highDen) / r.lowDen))
        (Nat.le_trans (Nat.mul_le_mul_right _ (Nat.min_le_left _ _)) (Nat.div_mul_le_self _ _)))

/-- A pair whose products are close is a combination of the two fractions with
bounded coefficients. The denominators have to be small beside the distance, or
the coefficients could be negative. -/
theorem exists_combination (r : Around a c) {n m d : Nat} (hlowSmall : r.lowDen * d < c)
    (hhighSmall : r.highDen * d < c) (habove : n * a ≤ m * c + d) (hbelow : m * c ≤ n * a + d) :
    ∃ x y, n = x * r.lowDen + y * r.highDen ∧ m = x * r.lowNum + y * r.highNum
      ∧ x * c ≤ n * r.highGap + r.highDen * d ∧ y * c ≤ n * r.lowGap + r.lowDen * d := by
  have hlow : (r.lowDen * a : Int) = r.lowNum * c + r.lowGap := by exact_mod_cast r.low
  have hhigh : (r.highDen * a + r.highGap : Int) = r.highNum * c := by exact_mod_cast r.high
  have hunit : (r.lowDen * r.highNum : Int) = r.lowNum * r.highDen + 1 := by
    exact_mod_cast r.neighbours
  -- The coefficients, and their products with `c`, in which only the distance is left.
  obtain ⟨x, hx⟩ : ∃ x : Int, x = n * r.highNum - m * r.highDen := ⟨_, rfl⟩
  obtain ⟨y, hy⟩ : ∃ y : Int, y = m * r.lowDen - n * r.lowNum := ⟨_, rfl⟩
  obtain ⟨s, hs⟩ : ∃ s : Int, s = n * a - m * c := ⟨_, rfl⟩
  have hproductX : x * c = n * r.highGap + r.highDen * s := by
    rw [hx, hs]
    linear_combination (-(n : Int)) * hhigh
  have hproductY : y * c = n * r.lowGap - r.lowDen * s := by
    rw [hy, hs]
    linear_combination (n : Int) * hlow
  have hsLow : -(d : Int) ≤ s := by
    rw [hs]
    have : (m * c : Int) ≤ n * a + d := by exact_mod_cast hbelow
    omega
  have hsHigh : s ≤ d := by
    rw [hs]
    have : (n * a : Int) ≤ m * c + d := by exact_mod_cast habove
    omega
  have hlowSmall' : (r.lowDen * d : Int) < c := by exact_mod_cast hlowSmall
  have hhighSmall' : (r.highDen * d : Int) < c := by exact_mod_cast hhighSmall
  have hlowS := mul_le_mul_of_nonneg_left hsHigh (Int.natCast_nonneg r.lowDen)
  have hhighS := mul_le_mul_of_nonneg_left hsLow (Int.natCast_nonneg r.highDen)
  have hlowS' := mul_le_mul_of_nonneg_left hsLow (Int.natCast_nonneg r.lowDen)
  have hhighS' := mul_le_mul_of_nonneg_left hsHigh (Int.natCast_nonneg r.highDen)
  have hlowGap : (0 : Int) ≤ n * r.lowGap := by positivity
  have hhighGap : (0 : Int) ≤ n * r.highGap := by positivity
  -- Were a coefficient negative, its product would be at most minus `c`, which is too far away.
  have hnonneg : ∀ z : Int, -(c : Int) < z * c → 0 ≤ z := by
    intro z hbound
    by_contra hnegative
    have := mul_le_mul_of_nonneg_right (show z ≤ -1 by omega) (Int.natCast_nonneg c)
    linarith
  obtain ⟨x, rfl⟩ := Int.eq_ofNat_of_zero_le (hnonneg x (by linarith))
  obtain ⟨y, rfl⟩ := Int.eq_ofNat_of_zero_le (hnonneg y (by linarith))
  -- Neighbouring fractions have determinant one, so the combination is the pair itself.
  refine ⟨x, y, ?_, ?_, ?_, ?_⟩
  · have : (n : Int) = x * r.lowDen + y * r.highDen := by
      rw [hx, hy]
      linear_combination (-(n : Int)) * hunit
    exact_mod_cast this
  · have : (m : Int) = x * r.lowNum + y * r.highNum := by
      rw [hx, hy]
      linear_combination (-(m : Int)) * hunit
    exact_mod_cast this
  · have : (x * c : Int) ≤ n * r.highGap + r.highDen * d := by linarith
    exact_mod_cast this
  · have : (y * c : Int) ≤ n * r.lowGap + r.lowDen * d := by linarith
    exact_mod_cast this

end Around

/-! ### The exponents of the format -/

/-- The unit of a decimal with exponent `i - 53`, in units of
`10 ^ -53 * 2 ^ -150`. -/
def tenUnit (i : Nat) : Nat := 10 ^ i * 2 ^ 150

/-- The unit of a midpoint with exponent `j - 150`, in the same units. -/
def twoUnit (j : Nat) : Nat := 2 ^ j * 10 ^ 53

/-- The decimals of eight digits that come close to a midpoint without being
one. -/
def closeCalls : List Decimal :=
  [⟨60025427, -40⟩, ⟨93137999, -40⟩, ⟨93503233, -37⟩, ⟨82381273, -35⟩, ⟨35192655, -33⟩,
    ⟨70385310, -33⟩, ⟨14077062, -32⟩, ⟨28154124, -32⟩, ⟨56308248, -32⟩, ⟨86795901, -30⟩,
    ⟨79876533, -26⟩, ⟨67047333, -24⟩, ⟨24214937, -17⟩, ⟨48429874, -17⟩, ⟨96859748, -17⟩,
    ⟨25645849, -15⟩, ⟨51291698, -15⟩, ⟨76626293, 11⟩, ⟨28874659, 15⟩, ⟨57749318, 15⟩,
    ⟨87243505, 16⟩, ⟨17448701, 17⟩, ⟨34897402, 17⟩, ⟨69794804, 17⟩, ⟨60991247, 18⟩,
    ⟨41358803, 27⟩, ⟨82717606, 27⟩]

/-- The decimal has eight digits. -/
def EightDigits (n : Nat) : Prop := 10 ^ 7 ≤ n ∧ n ≤ 10 ^ 8

/-- The odd multiple of a power of two is a midpoint: it has one bit more than a
number, unless it is on the least place. -/
def OddMultiple (j m : Nat) : Prop := m % 2 = 1 ∧ m < 2 ^ 25 ∧ (j = 0 ∨ 2 ^ 24 < m)

/-- The decimal differs from the midpoint by at most three units in `2 ^ 53`. -/
def Near (i j n m : Nat) : Prop :=
  2 ^ 53 * (n * tenUnit i) ≤ 2 ^ 53 * (m * twoUnit j) + 3 * (n * tenUnit i)
    ∧ 2 ^ 53 * (m * twoUnit j) ≤ 2 ^ 53 * (n * tenUnit i) + 3 * (n * tenUnit i)

/-- How many digits a number has can be computed. -/
instance (n : Nat) : Decidable (EightDigits n) := inferInstanceAs (Decidable (_ ∧ _))

/-- Whether a multiple is that of a midpoint can be computed. -/
instance (j m : Nat) : Decidable (OddMultiple j m) := inferInstanceAs (Decidable (_ ∧ _))

/-- Whether two products are close can be computed, so that all pairs can be tried
out. -/
instance (i j n m : Nat) : Decidable (Near i j n m) := inferInstanceAs (Decidable (_ ∧ _))

/-- The exponents have no decimal and no midpoint of the same size. -/
def outOfReach (i j : Nat) : Bool :=
  Nat.blt (2 ^ 26 * twoUnit j) (10 ^ 7 * tenUnit i)
    || j != 0 && Nat.blt (2 * 10 ^ 8 * tenUnit i) (2 ^ 24 * twoUnit j)

/-- Within these exponents a decimal can be a midpoint. -/
def canMeet (i : Nat) : Bool := Nat.ble 42 i && Nat.ble i 63

/-- Products that are multiples of a large number are equal, or not close. -/
def coarse (i j : Nat) : Bool :=
  Nat.blt (7 * twoUnit j) (2 ^ 29 * Nat.gcd (tenUnit i) (twoUnit j))

/-- All small combinations are far apart or close calls. -/
def combinationsClear (i j : Nat) : Bool :=
  let r := (Around.start (tenUnit i) (twoUnit j)).narrow (2 ^ 29 / 7) 40
  let d := 7 * twoUnit j / 2 ^ 29
  Nat.blt (r.lowDen * d) (twoUnit j) && Nat.blt (r.highDen * d) (twoUnit j)
    && (List.range ((10 ^ 8 * r.highGap + r.highDen * d) / twoUnit j + 1)).all fun x =>
      (List.range ((10 ^ 8 * r.lowGap + r.lowDen * d) / twoUnit j + 1)).all fun y =>
        let n := x * r.lowDen + y * r.highDen
        let m := x * r.lowNum + y * r.highNum
        !decide (EightDigits n ∧ OddMultiple j m ∧ Near i j n m)
          || closeCalls.contains ⟨n, (i : Int) - 53⟩

/-- Decimals and midpoints with these exponents are told apart. -/
def clear (i j : Nat) : Bool :=
  outOfReach i j || if canMeet i then coarse i j else combinationsClear i j

/-- All exponents of the format, tried out. -/
theorem all_clear : (List.range 85).all (fun i => (List.range 254).all (clear i)) = true := by
  decide +kernel

/-! ### What the trial shows -/

section Near

variable {i j n m : Nat}

/-- The distance of what is near, in terms of the midpoint's unit alone. -/
theorem distance_of_near (hodd : OddMultiple j m) (hnear : Near i j n m) :
    2 ^ 29 * (n * tenUnit i) ≤ 2 ^ 29 * (m * twoUnit j) + 7 * twoUnit j
      ∧ 2 ^ 29 * (m * twoUnit j) ≤ 2 ^ 29 * (n * tenUnit i) + 7 * twoUnit j := by
  obtain ⟨habove, hbelow⟩ := hnear
  have hsize : m * twoUnit j ≤ 2 ^ 25 * twoUnit j := Nat.mul_le_mul_right _ hodd.2.1.le
  generalize n * tenUnit i = s at *
  generalize m * twoUnit j = t at *
  omega

/-- Sizes that do not meet are not close. -/
theorem not_near_of_outOfReach (hreach : outOfReach i j = true) (hdigits : EightDigits n)
    (hodd : OddMultiple j m) : ¬ Near i j n m := by
  rintro ⟨habove, hbelow⟩
  have hleast := Nat.mul_le_mul_right (tenUnit i) hdigits.1
  have hmost := Nat.mul_le_mul_right (tenUnit i) hdigits.2
  have hsize : m * twoUnit j ≤ 2 ^ 25 * twoUnit j := Nat.mul_le_mul_right _ hodd.2.1.le
  unfold outOfReach at hreach
  rw [Bool.or_eq_true, Bool.and_eq_true, Nat.blt_eq, Nat.blt_eq, bne_iff_ne] at hreach
  rcases hreach with hhigh | ⟨hnormal, hlow⟩
  · omega
  · -- On a place above the least one, midpoints are not small.
    have hfull := Nat.mul_le_mul_right (twoUnit j) (hodd.2.2.resolve_left hnormal).le
    omega

/-- Close products that are multiples of a large number are equal. -/
theorem eq_of_coarse (hgrid : coarse i j = true) (hodd : OddMultiple j m) (hnear : Near i j n m) :
    n * tenUnit i = m * twoUnit j := by
  obtain ⟨habove, hbelow⟩ := distance_of_near hodd hnear
  have hdivides : (Nat.gcd (tenUnit i) (twoUnit j) : Int)
      ∣ (n * tenUnit i : Nat) - (m * twoUnit j : Nat) := by
    refine Int.dvd_sub (Int.natCast_dvd_natCast.mpr ?_) (Int.natCast_dvd_natCast.mpr ?_)
    · exact Dvd.dvd.mul_left (Nat.gcd_dvd_left _ _) n
    · exact Dvd.dvd.mul_left (Nat.gcd_dvd_right _ _) m
  -- The distance is a multiple of the divisor, and smaller than it.
  have hzero := Int.eq_zero_of_abs_lt_dvd hdivides (by
    have hgrid' := Nat.blt_eq.mp hgrid
    rw [abs_lt]
    omega)
  omega

/-- What is near is a small combination, and all of these have been tried out. -/
theorem mem_closeCalls_of_combinationsClear (htried : combinationsClear i j = true)
    (hdigits : EightDigits n) (hodd : OddMultiple j m) (hnear : Near i j n m) :
    (⟨n, (i : Int) - 53⟩ : Decimal) ∈ closeCalls := by
  obtain ⟨habove, hbelow⟩ := distance_of_near hodd hnear
  unfold combinationsClear at htried
  generalize (Around.start (tenUnit i) (twoUnit j)).narrow (2 ^ 29 / 7) 40 = r at htried
  dsimp only at htried
  rw [Bool.and_eq_true, Bool.and_eq_true, Nat.blt_eq, Nat.blt_eq] at htried
  obtain ⟨⟨hlowSmall, hhighSmall⟩, htried⟩ := htried
  obtain ⟨x, y, rfl, rfl, hboundX, hboundY⟩ := r.exists_combination hlowSmall hhighSmall
    (n := n) (m := m) (by omega) (by omega)
  have hpos : 0 < twoUnit j := Nat.lt_of_le_of_lt (Nat.zero_le _) hlowSmall
  -- The coefficients are within the bounds of the trial.
  have hfew : ∀ {z gap rest : Nat},
      z * twoUnit j ≤ (x * r.lowDen + y * r.highDen) * gap + rest →
      z < (10 ^ 8 * gap + rest) / twoUnit j + 1 := by
    intro z gap rest hbound
    have hmost := Nat.mul_le_mul_right gap hdigits.2
    exact Nat.lt_succ_of_le ((Nat.le_div_iff_mul_le hpos).mpr (by omega))
  have hrow := List.all_eq_true.mp htried x (List.mem_range.mpr (hfew hboundX))
  have hcell := List.all_eq_true.mp hrow y (List.mem_range.mpr (hfew hboundY))
  rw [Bool.or_eq_true, Bool.not_eq_true', decide_eq_false_iff_not, List.contains_iff_mem] at hcell
  exact hcell.resolve_left fun hapart => hapart ⟨hdigits, hodd, hnear⟩

/-- A decimal of eight digits that is near a midpoint is the midpoint, which can
only be for small exponents, or one of the close calls. -/
theorem near_cases (hdecimal : i < 85) (hbinary : j < 254) (hdigits : EightDigits n)
    (hodd : OddMultiple j m) (hnear : Near i j n m) :
    (42 ≤ i ∧ i ≤ 63 ∧ n * tenUnit i = m * twoUnit j)
      ∨ (⟨n, (i : Int) - 53⟩ : Decimal) ∈ closeCalls := by
  have hrow := List.all_eq_true.mp all_clear i (List.mem_range.mpr hdecimal)
  have htried := List.all_eq_true.mp hrow j (List.mem_range.mpr hbinary)
  rw [clear, Bool.or_eq_true] at htried
  -- Whichever test has cleared the exponents, it says what is near.
  rcases htried with hreach | htried
  · exact absurd hnear (not_near_of_outOfReach hreach hdigits hodd)
  · split at htried
    · next hmeet =>
        rw [canMeet, Bool.and_eq_true, Nat.ble_eq, Nat.ble_eq] at hmeet
        exact .inl ⟨hmeet.1, hmeet.2, eq_of_coarse htried hodd hnear⟩
    · exact .inr (mem_closeCalls_of_combinationsClear htried hdigits hodd hnear)

end Near

/-! ### Midpoints of the format -/

/-- The unit in which `tenUnit` and `twoUnit` count. -/
def commonUnit : Rat := (10 : Rat) ^ (53 : Int) * (2 : Rat) ^ (150 : Int)

/-- A unit is not zero, so it can be cancelled. -/
theorem commonUnit_pos : 0 < commonUnit :=
  mul_pos (zpow_pos (by norm_num) _) (zpow_pos two_pos _)

/-- A decimal with exponent `i - 53`, counted in common units. -/
theorem natCast_mul_tenUnit (n i : Nat) :
    ((n * tenUnit i : Nat) : Rat) = n * (10 : Rat) ^ ((i : Int) - 53) * commonUnit := by
  have hpower : (10 : Rat) ^ (i : Int)
      = (10 : Rat) ^ ((i : Int) - 53) * (10 : Rat) ^ (53 : Int) := by
    rw [← zpow_add₀ (by norm_num), sub_add_cancel]
  have hcast : ((n * tenUnit i : Nat) : Rat)
      = n * ((10 : Rat) ^ (i : Int) * (2 : Rat) ^ (150 : Int)) := by
    unfold tenUnit
    push_cast
    rfl
  rw [hcast, hpower, commonUnit]
  ring

/-- A midpoint with exponent `j - 150`, counted in common units. -/
theorem natCast_mul_twoUnit (m j : Nat) :
    ((m * twoUnit j : Nat) : Rat) = m * (2 : Rat) ^ ((j : Int) - 150) * commonUnit := by
  have hpower : (2 : Rat) ^ (j : Int) =
      (2 : Rat) ^ ((j : Int) - 150) * (2 : Rat) ^ (150 : Int) := by
    rw [← zpow_add₀ two_ne_zero, sub_add_cancel]
  have hcast : ((m * twoUnit j : Nat) : Rat)
      = m * ((2 : Rat) ^ (j : Int) * (10 : Rat) ^ (53 : Int)) := by
    unfold twoUnit
    push_cast
    rfl
  rw [hcast, hpower, commonUnit]
  ring

/-- A midpoint of the format of thresholds is an odd multiple of a power of two. -/
theorem exists_oddMultiple {k : Nat} (hfinite : k < BinaryFormat.single.infinity) :
    ∃ j m, j < 254 ∧ OddMultiple j m
      ∧ BinaryFormat.single.midpoint k = m * (2 : Rat) ^ ((j : Int) - 150) := by
  have hexponent : BinaryFormat.single.leastExponent = -149 := by decide
  have hinfinity : BinaryFormat.single.infinity = 255 * 2 ^ 23 := by decide
  have hbits : BinaryFormat.single.fractionBits = 23 := rfl
  have hplace : BinaryFormat.single.lastPlace k = -149 + ((k / 2 ^ 23 - 1 : Nat) : Int) := by
    rw [BinaryFormat.lastPlace, hexponent]
    rfl
  have hfield : k / 2 ^ 23 < 255 :=
    (Nat.div_lt_iff_lt_mul (Nat.two_pow_pos 23)).mpr (hinfinity ▸ hfinite)
  have hmost := BinaryFormat.single.significand_lt k
  -- Half of the last place is the unit, and in it the midpoint is twice the significand and
  -- one.
  refine ⟨k / 2 ^ 23 - 1, 2 * BinaryFormat.single.significand k + 1, by omega,
    ⟨by omega, by rw [hbits] at hmost; omega, ?_⟩, ?_⟩
  · rcases Nat.eq_zero_or_pos (k / 2 ^ 23 - 1) with hsubnormal | hnormal
    · exact .inl hsubnormal
    · right
      have hfull := BinaryFormat.single.le_significand (m := k) (by rw [hexponent, hplace]; omega)
      rw [hbits] at hfull
      omega
  · rw [BinaryFormat.single.midpoint_eq, hplace]
    congr 2
    omega

/-- An odd number is not zero. -/
theorem OddMultiple.pos {j m : Nat} (hodd : OddMultiple j m) : 0 < m := by
  have hodd := hodd.1
  omega

/-- The range of the midpoints. -/
theorem midpoint_range {k : Nat} (hfinite : k < BinaryFormat.single.infinity) :
    (2 : Rat) ^ (-150 : Int) ≤ BinaryFormat.single.midpoint k
      ∧ BinaryFormat.single.midpoint k < (2 : Rat) ^ (128 : Int) := by
  obtain ⟨j, m, hbinary, hodd, hmidpoint⟩ := exists_oddMultiple hfinite
  have hone : (1 : Rat) ≤ m := by exact_mod_cast hodd.pos
  have hunit : (0 : Rat) < (2 : Rat) ^ ((j : Int) - 150) := zpow_pos two_pos _
  rw [hmidpoint]
  constructor
  · calc (2 : Rat) ^ (-150 : Int) ≤ (2 : Rat) ^ ((j : Int) - 150) :=
          zpow_le_zpow_right₀ one_le_two (by omega)
      _ ≤ m * (2 : Rat) ^ ((j : Int) - 150) := le_mul_of_one_le_left hunit.le hone
  · have hstrict : (m : Rat) < (2 : Rat) ^ (25 : Int) := by exact_mod_cast hodd.2.1
    calc m * (2 : Rat) ^ ((j : Int) - 150)
        < (2 : Rat) ^ (25 : Int) * (2 : Rat) ^ ((j : Int) - 150) :=
          mul_lt_mul_of_pos_right hstrict hunit
      _ = (2 : Rat) ^ (25 + ((j : Int) - 150)) := (zpow_add₀ two_ne_zero _ _).symm
      _ ≤ (2 : Rat) ^ (128 : Int) := zpow_le_zpow_right₀ one_le_two (by omega)

/-- The powers of ten around a decimal of eight digits. -/
theorem value_bounds_of_eightDigits {n : Nat} (hdigits : EightDigits n) (e : Int) :
    (10 : Rat) ^ (7 + e) ≤ Decimal.value ⟨n, e⟩ ∧ Decimal.value ⟨n, e⟩ ≤ (10 : Rat) ^ (8 + e) := by
  have hunit : (0 : Rat) < (10 : Rat) ^ e := zpow_pos (by norm_num) _
  have hleast : (10 : Rat) ^ (7 : Int) ≤ n := by exact_mod_cast hdigits.1
  have hmost : (n : Rat) ≤ (10 : Rat) ^ (8 : Int) := by exact_mod_cast hdigits.2
  rw [Decimal.value_eq, zpow_add₀ (by norm_num), zpow_add₀ (by norm_num)]
  exact ⟨mul_le_mul_of_nonneg_right hleast hunit.le, mul_le_mul_of_nonneg_right hmost hunit.le⟩

/-- The exponents of the decimals of eight digits between the midpoints. -/
theorem exponent_bounds_of_eightDigits {n : Nat} {e : Int} (hdigits : EightDigits n)
    (hlow : (2 : Rat) ^ (-150 : Int) ≤ Decimal.value ⟨n, e⟩)
    (hhigh : Decimal.value ⟨n, e⟩ < (2 : Rat) ^ (128 : Int)) : -53 ≤ e ∧ e < 32 := by
  obtain ⟨hleast, hmost⟩ := value_bounds_of_eightDigits hdigits e
  have hfirst : (10 : Rat) ^ (-46 : Int) < (10 : Rat) ^ (8 + e) :=
    calc (10 : Rat) ^ (-46 : Int) < (2 : Rat) ^ (-150 : Int) := by norm_num
      _ ≤ (10 : Rat) ^ (8 + e) := le_trans hlow hmost
  have hlast : (10 : Rat) ^ (7 + e) < (10 : Rat) ^ (39 : Int) :=
    calc (10 : Rat) ^ (7 + e) < (2 : Rat) ^ (128 : Int) := lt_of_le_of_lt hleast hhigh
      _ < (10 : Rat) ^ (39 : Int) := by norm_num
  -- The order of the powers is that of their exponents.
  have hfirst' := (zpow_lt_zpow_iff_right₀ (by norm_num : (1 : Rat) < 10)).mp hfirst
  have hlast' := (zpow_lt_zpow_iff_right₀ (by norm_num : (1 : Rat) < 10)).mp hlast
  omega

/-- A decimal of few digits has eight, if zeros are appended. -/
theorem exists_eightDigits {d : Decimal} (hpos : 0 < d.digits) (hfew : d.digits ≤ 10 ^ 8) :
    ∃ n e, EightDigits n ∧ Decimal.value ⟨n, e⟩ = d.value := by
  -- Each zero that is appended brings the digits closer to the limit.
  induction hmissing : 10 ^ 8 - d.digits using Nat.strong_induction_on generalizing d with
  | _ k ih =>
      rcases Nat.lt_or_ge d.digits (10 ^ 7) with hshort | hlong
      · have hlonger := ih (10 ^ 8 - 10 * d.digits) (by omega)
          (d := ⟨10 * d.digits, d.exponent - 1⟩)
          (by show 0 < 10 * d.digits; omega) (by show 10 * d.digits ≤ 10 ^ 8; omega) rfl
        obtain ⟨n, e, hdigits, hvalue⟩ := hlonger
        refine ⟨n, e, hdigits, hvalue.trans ?_⟩
        rw [Decimal.value_eq, Decimal.value_eq, zpow_sub_one₀ (by norm_num)]
        push_cast
        ring
      · exact ⟨d.digits, d.exponent, ⟨hlong, hfew⟩, rfl⟩

/-- A decimal of eight digits that lies within three units of `2 ^ -53` of a
midpoint is the midpoint, or one of the close calls. -/
theorem midpoint_cases {n k : Nat} {e : Int} (hdigits : EightDigits n) (hleast : -53 ≤ e)
    (hmost : e < 32) (hfinite : k < BinaryFormat.single.infinity)
    (hnear : 2 ^ 53 * |BinaryFormat.single.midpoint k - Decimal.value ⟨n, e⟩|
      ≤ 3 * Decimal.value ⟨n, e⟩) :
    (-11 ≤ e ∧ e ≤ 10 ∧ Decimal.value ⟨n, e⟩ = BinaryFormat.single.midpoint k)
      ∨ (⟨n, e⟩ : Decimal) ∈ closeCalls := by
  obtain ⟨i, hshift⟩ := Int.eq_ofNat_of_zero_le (show 0 ≤ e + 53 by omega)
  obtain rfl : e = (i : Int) - 53 := by omega
  obtain ⟨j, m, hbinary, hodd, hmidpoint⟩ := exists_oddMultiple hfinite
  rw [hmidpoint, Decimal.value_eq] at hnear ⊢
  have hunit := commonUnit_pos
  obtain ⟨hlow, hhigh⟩ := abs_le.mp (show |(m : Rat) * (2 : Rat) ^ ((j : Int) - 150)
      - (n : Rat) * (10 : Rat) ^ ((i : Int) - 53)|
    ≤ 3 * ((n : Rat) * (10 : Rat) ^ ((i : Int) - 53)) / 2 ^ 53 by linarith)
  have hlow' := mul_le_mul_of_nonneg_right hlow hunit.le
  have hhigh' := mul_le_mul_of_nonneg_right hhigh hunit.le
  -- Counted in common units, both sides are natural numbers, as in the trial.
  have hclose : Near i j n m := by
    constructor
    · have : (2 : Rat) ^ 53 * ((n * tenUnit i : Nat) : Rat)
          ≤ 2 ^ 53 * ((m * twoUnit j : Nat) : Rat) + 3 * ((n * tenUnit i : Nat) : Rat) := by
        rw [natCast_mul_tenUnit, natCast_mul_twoUnit]
        linarith
      exact_mod_cast this
    · have : (2 : Rat) ^ 53 * ((m * twoUnit j : Nat) : Rat)
          ≤ 2 ^ 53 * ((n * tenUnit i : Nat) : Rat) + 3 * ((n * tenUnit i : Nat) : Rat) := by
        rw [natCast_mul_tenUnit, natCast_mul_twoUnit]
        linarith
      exact_mod_cast this
  rcases near_cases (by omega) hbinary hdigits hodd hclose with ⟨hfirst, hlast, hsame⟩ | hcall
  · left
    refine ⟨by omega, by omega, mul_right_cancel₀ hunit.ne' ?_⟩
    have hequal : ((n * tenUnit i : Nat) : Rat) = ((m * twoUnit j : Nat) : Rat) := by rw [hsame]
    rwa [natCast_mul_tenUnit, natCast_mul_twoUnit] at hequal
  · exact .inr hcall

end ClassifierBridge
