import ClassifierBridge.Decimal.Shortest
import ClassifierBridge.Proofs.Binary.Rounding

/-!
# `ClassifierBridge.Proofs.Decimal.Shortest`: where the shortest digits lie

The search for the fewest digits goes from the grid of the first digit down to
the grid on which the number itself lies, and on each looks at the two points
next to the number. So whatever it finds is at most one step above the number,
and the step is at most as large as the number.

* `Decimal.floorLog10_spec`: the exponent of the first digit.
* `Decimal.shortest_cases`: the grid on which the search ends, and why.
* `Decimal.value_shortest_le`: what is found is at most twice the number.
-/

set_option autoImplicit false

namespace ClassifierBridge.Decimal

/-! ### Digits -/

/-- A number of so many digits is below the power of ten behind them. -/
theorem lt_pow_length_digitsOf (n : Nat) : n < 10 ^ (digitsOf n).length :=
  (Nat.length_toDigits_le_iff (by decide) Nat.length_toDigits_pos).mp (Nat.le_refl _)

/-- It is at least the power of ten of its first digit. -/
theorem pow_length_digitsOf_le {n : Nat} (hpos : 0 < n) : 10 ^ ((digitsOf n).length - 1) ≤ n := by
  rcases Nat.eq_zero_or_pos ((digitsOf n).length - 1) with hnone | hmore
  · rw [hnone]
    exact hpos
  · by_contra hless
    have hshort := (Nat.length_toDigits_le_iff (b := 10) (by decide) hmore).mpr (not_le.mp hless)
    unfold digitsOf at hmore hshort
    omega

/-- The decimal exponent of a number: the greatest power of ten that is not above it. -/
theorem floorLog10_spec {x : Rat} (hpos : 0 < x) :
    (10 : Rat) ^ floorLog10 x ≤ x ∧ x < (10 : Rat) ^ (floorLog10 x + 1) := by
  have hnum : 0 < x.num.toNat := by
    have := Rat.num_pos.mpr hpos
    omega
  have hlength : ∀ n, (digitsOf n).length - 1 + 1 = (digitsOf n).length := fun n =>
    Nat.sub_add_cancel Nat.length_toDigits_pos
  have hhigh : ∀ n, n < 10 ^ ((digitsOf n).length - 1 + 1) := fun n => by
    rw [hlength]
    exact lt_pow_length_digitsOf n
  have hdifference : ((digitsOf x.num.toNat).length : Int) - ((digitsOf x.den).length : Int)
      = (((digitsOf x.num.toNat).length - 1 : Nat) : Int)
        - (((digitsOf x.den).length - 1 : Nat) : Int) := by
    have := hlength x.num.toNat
    have := hlength x.den
    omega
  -- Lengths in digits are the candidates that `floorLog_spec` asks for.
  have hspec := floorLog_spec (by decide) hpos (pow_length_digitsOf_le hnum) (hhigh _)
    (pow_length_digitsOf_le x.den_pos) (hhigh _)
    (e := floorLog10 x) (by rw [floorLog10, hdifference])
  exact_mod_cast hspec

/-! ### The search -/

/-- The point of a grid just at or below a number, and the one above it. -/
theorem floor_bounds {x : Rat} (hnonneg : 0 ≤ x) (e : Int) :
    ((x * scaled 1 10 (-e)).floor.toNat : Rat) ≤ x * (10 : Rat) ^ (-e)
      ∧ x * (10 : Rat) ^ (-e) < ((x * scaled 1 10 (-e)).floor.toNat : Rat) + 1 := by
  have hunit : scaled 1 10 (-e) = (10 : Rat) ^ (-e) := scaled_one (by decide) _
  have hsteps : 0 ≤ x * (10 : Rat) ^ (-e) := mul_nonneg hnonneg (zpow_pos (by norm_num) _).le
  rw [hunit]
  have hwhole : (0 : Int) ≤ (x * (10 : Rat) ^ (-e)).floor :=
    Rat.le_floor_iff.mpr (by exact_mod_cast hsteps)
  have hcast : (((x * (10 : Rat) ^ (-e)).floor.toNat : Nat) : Rat)
      = ((x * (10 : Rat) ^ (-e)).floor : Rat) := by
    have hsame := congrArg (Int.cast (R := Rat)) (Int.toNat_of_nonneg hwhole)
    rwa [Int.cast_natCast] at hsame
  have habove := Rat.lt_floor_add_one (x * (10 : Rat) ^ (-e))
  push_cast at habove
  rw [hcast]
  exact ⟨Rat.floor_le _, habove⟩

/-- The nearer of two neighbours is one of them. -/
theorem nearer_bounds (tie : TieRule) (low : Nat) (x : Rat) :
    low ≤ nearer tie low x ∧ nearer tie low x ≤ low + 1 := by
  have hparity : low % 2 ≤ 1 := by omega
  unfold nearer
  dsimp only
  split
  · omega
  · split
    · omega
    · cases tie with
      | even => exact ⟨Nat.le_add_right _ _, Nat.add_le_add_left hparity low⟩
      | up => exact ⟨Nat.le_succ low, Nat.le_refl _⟩

/-- What is found on a grid is one of the two points next to the number. -/
theorem onGrid_bounds {reads : Rat → Bool} {tie : TieRule} {x : Rat} {e : Int} {digits : Nat}
    (hfound : onGrid reads tie x e = some digits) :
    (x * scaled 1 10 (-e)).floor.toNat ≤ digits
      ∧ digits ≤ (x * scaled 1 10 (-e)).floor.toNat + 1 := by
  unfold onGrid at hfound
  dsimp only at hfound
  -- Where both points read back the nearer one is taken, else the one that does.
  split at hfound
  · cases hfound
    exact nearer_bounds _ _ _
  · cases hfound
    omega
  · cases hfound
    omega
  · cases hfound

/-- The search ends on a grid that has a point that reads back, or on the last
one with the point just at or below the number. -/
theorem search_cases (reads : Rat → Bool) (tie : TieRule) (x : Rat) (finer : Nat) (e : Int) :
    e - finer ≤ (search reads tie x finer e).exponent ∧ (search reads tie x finer e).exponent ≤ e
      ∧ (onGrid reads tie x (search reads tie x finer e).exponent
            = some (search reads tie x finer e).digits
          ∨ (search reads tie x finer e).exponent = e - finer
            ∧ (search reads tie x finer e).digits
              = (x * scaled 1 10 (-(e - finer))).floor.toNat) := by
  -- The induction is on the grids that are left.
  induction finer generalizing e with
  | zero =>
      rw [search, Nat.cast_zero, Int.sub_zero]
      exact ⟨Int.le_refl e, Int.le_refl e, .inr ⟨rfl, rfl⟩⟩
  | succ finer ih =>
      rw [search]
      cases hfound : onGrid reads tie x e with
      | some digits =>
          have hhere : e - ((finer + 1 : Nat) : Int) ≤ e := by omega
          exact ⟨hhere, Int.le_refl e, .inl hfound⟩
      | none =>
          dsimp only
          obtain ⟨hleast, hmost, hwhich⟩ := ih (e - 1)
          have hlast : e - ((finer + 1 : Nat) : Int) = e - 1 - (finer : Int) := by omega
          rw [hlast]
          exact ⟨hleast, by omega, hwhich⟩

/-! ### The shortest decimal -/

section Shortest

variable (fmt : BinaryFormat) (tie : TieRule) {m : Nat}

/-- The grid of the first digit is not finer than the one on which the number
lies. -/
theorem lastPlace_le_floorLog10 (hpos : 0 < m) :
    min (fmt.lastPlace m) 0 ≤ floorLog10 (fmt.magnitudeValue m) := by
  have hhigh := (floorLog10_spec (fmt.magnitudeValue_pos hpos)).2
  have hone : (1 : Rat) ≤ fmt.significand m := by exact_mod_cast fmt.significand_pos hpos
  have hlow : (2 : Rat) ^ fmt.lastPlace m ≤ fmt.magnitudeValue m := by
    rw [fmt.magnitudeValue_eq]
    exact le_mul_of_one_le_left (zpow_pos two_pos _).le hone
  by_contra hcoarser
  have hnegative : floorLog10 (fmt.magnitudeValue m) + 1 ≤ 0 := by omega
  have hbetween : floorLog10 (fmt.magnitudeValue m) + 1 ≤ fmt.lastPlace m := by omega
  -- Below one, a power of ten is smaller than the same power of two.
  have hpowers : (10 : Rat) ^ (floorLog10 (fmt.magnitudeValue m) + 1)
      ≤ (2 : Rat) ^ (floorLog10 (fmt.magnitudeValue m) + 1) := by
    obtain ⟨n, hsame⟩ := Int.eq_ofNat_of_zero_le (Int.neg_nonneg.mpr hnegative)
    rw [← neg_neg (floorLog10 (fmt.magnitudeValue m) + 1), hsame, zpow_neg, zpow_neg,
      zpow_natCast, zpow_natCast]
    exact inv_anti₀ (pow_pos two_pos n) (pow_le_pow_left₀ two_pos.le (by norm_num) n)
  have hplaces :
      (2 : Rat) ^ (floorLog10 (fmt.magnitudeValue m) + 1) ≤ (2 : Rat) ^ fmt.lastPlace m :=
    zpow_le_zpow_right₀ one_le_two hbetween
  linarith

/-- The shortest decimal of a number lies on a grid between that of the first
digit and that of the number, and is a point that reads back or the number
itself. -/
theorem shortest_cases (hpos : 0 < m) :
    min (fmt.lastPlace m) 0 ≤ (shortest fmt tie m).exponent
      ∧ (shortest fmt tie m).exponent ≤ floorLog10 (fmt.magnitudeValue m)
      ∧ (onGrid (fun y => fmt.roundMagnitude y == m) tie (fmt.magnitudeValue m)
            (shortest fmt tie m).exponent = some (shortest fmt tie m).digits
          ∨ (shortest fmt tie m).exponent = min (fmt.lastPlace m) 0
            ∧ (shortest fmt tie m).digits
              = (fmt.magnitudeValue m * scaled 1 10 (-min (fmt.lastPlace m) 0)).floor.toNat) := by
  have hnonzero : ¬ fmt.significand m = 0 := (fmt.significand_pos hpos).ne'
  have hlast := lastPlace_le_floorLog10 fmt hpos
  rw [shortest, if_neg hnonzero]
  dsimp only
  have hcases := search_cases (fun y => fmt.roundMagnitude y == m) tie (fmt.magnitudeValue m)
    (floorLog10 (fmt.magnitudeValue m) - min (fmt.lastPlace m) 0).toNat
    (floorLog10 (fmt.magnitudeValue m))
  have hfinest : floorLog10 (fmt.magnitudeValue m)
      - ((floorLog10 (fmt.magnitudeValue m) - min (fmt.lastPlace m) 0).toNat : Int)
      = min (fmt.lastPlace m) 0 := by omega
  rw [hfinest] at hcases
  exact hcases

/-- The digits found are at most one above the number, on their grid. -/
theorem digits_shortest_le (hpos : 0 < m) :
    ((shortest fmt tie m).digits : Rat)
      ≤ fmt.magnitudeValue m * (10 : Rat) ^ (-(shortest fmt tie m).exponent) + 1 := by
  obtain ⟨-, -, hwhich⟩ := shortest_cases fmt tie hpos
  have hfloor := fun e => (floor_bounds (fmt.magnitudeValue_nonneg m) e).1
  -- Found or not, the digits are those of the point below, or one more.
  rcases hwhich with hfound | ⟨hexponent, hdigits⟩
  · have hbound : ((shortest fmt tie m).digits : Rat)
        ≤ ((fmt.magnitudeValue m * scaled 1 10 (-(shortest fmt tie m).exponent)).floor.toNat : Rat)
          + 1 := by exact_mod_cast (onGrid_bounds hfound).2
    have := hfloor (shortest fmt tie m).exponent
    linarith
  · have := hfloor (min (fmt.lastPlace m) 0)
    rw [hdigits, hexponent]
    linarith

/-- The value of a decimal, with an integer power of ten. -/
theorem value_eq (d : Decimal) : d.value = (d.digits : Rat) * (10 : Rat) ^ d.exponent := by
  rw [value, scaled_eq (by decide)]
  push_cast
  rfl

/-- The shortest decimal is at most twice the number. -/
theorem value_shortest_le (hpos : 0 < m) :
    (shortest fmt tie m).value ≤ 2 * fmt.magnitudeValue m := by
  obtain ⟨-, hfirst, -⟩ := shortest_cases fmt tie hpos
  have hdigits := digits_shortest_le fmt tie hpos
  have hstep : (10 : Rat) ^ (shortest fmt tie m).exponent ≤ fmt.magnitudeValue m :=
    le_trans (zpow_le_zpow_right₀ (by norm_num) hfirst)
      (floorLog10_spec (fmt.magnitudeValue_pos hpos)).1
  have hunit : (0 : Rat) < (10 : Rat) ^ (shortest fmt tie m).exponent := zpow_pos (by norm_num) _
  calc (shortest fmt tie m).value
      = ((shortest fmt tie m).digits : Rat) * (10 : Rat) ^ (shortest fmt tie m).exponent :=
        value_eq _
    _ ≤ (fmt.magnitudeValue m * (10 : Rat) ^ (-(shortest fmt tie m).exponent) + 1)
          * (10 : Rat) ^ (shortest fmt tie m).exponent :=
        mul_le_mul_of_nonneg_right hdigits hunit.le
    _ = fmt.magnitudeValue m + (10 : Rat) ^ (shortest fmt tie m).exponent := by
        rw [add_mul, one_mul, mul_assoc, ← zpow_add₀ (by norm_num), neg_add_cancel, zpow_zero,
          mul_one]
    _ ≤ 2 * fmt.magnitudeValue m := by linarith

end Shortest

end ClassifierBridge.Decimal
