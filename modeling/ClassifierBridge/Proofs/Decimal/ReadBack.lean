import ClassifierBridge.Proofs.Binary.Midpoint
import ClassifierBridge.Proofs.Decimal.Shortest

/-!
# `ClassifierBridge.Proofs.Decimal.ReadBack`: the shortest decimal identifies

The shortest decimal of a number is rounded to the number again. A grid that is
fine beside the distance of neighbouring numbers always has such a decimal, so
the search never gets beyond it; and there both points next to the number are
candidates, of which the nearer one is taken. So a shortest decimal has few
digits, or it lies very near the number.

* `roundMagnitude_shortest`: the shortest decimal reads back.
* `floorLog10_sub_le_exponent`: the finest grid that is needed.
* `digits_shortest_le_pow`: the digits that a grid leaves.
* `digits_le_or_near`: few digits, or near the number.
-/

set_option autoImplicit false

namespace ClassifierBridge.Decimal

/-! ### A single grid -/

section Grid

variable {x : Rat}

/-- Steps of a grid, taken back to the number line. -/
theorem mul_zpow_neg_mul_zpow (x : Rat) (e : Int) : x * (10 : Rat) ^ (-e) * (10 : Rat) ^ e = x := by
  rw [mul_assoc, ← zpow_add₀ (by norm_num), neg_add_cancel, zpow_zero, mul_one]

/-- Whatever is found on a grid reads back. -/
theorem reads_of_onGrid {reads : Rat → Bool} {tie : TieRule} {e : Int} {digits : Nat}
    (hfound : onGrid reads tie x e = some digits) : reads (value ⟨digits, e⟩) = true := by
  unfold onGrid at hfound
  dsimp only at hfound
  split at hfound
  · next hlow hhigh =>
      -- The nearer of two that read back is one of them.
      cases hfound
      obtain ⟨hleast, hmost⟩ := nearer_bounds tie (x * scaled 1 10 (-e)).floor.toNat
        (x * scaled 1 10 (-e))
      rcases Nat.eq_or_lt_of_le hleast with hsame | habove
      · rw [← hsame]
        exact hlow
      · rw [Nat.le_antisymm hmost habove]
        exact hhigh
  · next hlow _ =>
      cases hfound
      exact hlow
  · next _ hhigh =>
      cases hfound
      exact hhigh
  · cases hfound

/-- The nearer of two neighbours is at most half a unit away. -/
theorem abs_nearer_sub_le (tie : TieRule) {low : Nat} {s : Rat} (hleast : (low : Rat) ≤ s)
    (hmost : s ≤ (low : Rat) + 1) : 2 * |(nearer tie low s : Rat) - s| ≤ 1 := by
  have hdown : 2 * s ≤ ((2 * low + 1 : Nat) : Rat) → 2 * |(low : Rat) - s| ≤ 1 := by
    intro hle
    push_cast at hle
    rw [abs_of_nonpos (by linarith)]
    linarith
  have hup : ((2 * low + 1 : Nat) : Rat) ≤ 2 * s → 2 * |((low + 1 : Nat) : Rat) - s| ≤ 1 := by
    intro hge
    push_cast at hge ⊢
    rw [abs_of_nonneg (by linarith)]
    linarith
  -- In each case one of the two applies, and which one depends on the side of the middle.
  unfold nearer
  dsimp only
  split
  · next hbelow => exact hdown hbelow.le
  · next hnotBelow =>
      split
      · next habove => exact hup habove.le
      · next hnotAbove =>
          -- At the same distance either neighbour will do.
          cases tie with
          | up => exact hup (not_lt.mp hnotBelow)
          | even =>
              dsimp only
              rcases Nat.mod_two_eq_zero_or_one low with heven | hodd
              · rw [heven, Nat.add_zero]
                exact hdown (not_lt.mp hnotAbove)
              · rw [hodd]
                exact hup (not_lt.mp hnotBelow)

/-- The nearer point of a grid is at most half a step of the grid away. -/
theorem abs_value_nearer_sub_le (tie : TieRule) (hnonneg : 0 ≤ x) (e : Int) :
    2 * |value ⟨nearer tie (x * scaled 1 10 (-e)).floor.toNat (x * scaled 1 10 (-e)), e⟩ - x|
      ≤ (10 : Rat) ^ e := by
  have hstep : (0 : Rat) < (10 : Rat) ^ e := zpow_pos (by norm_num) _
  have hunit : scaled 1 10 (-e) = (10 : Rat) ^ (-e) := scaled_one (by decide) _
  obtain ⟨hlow, hhigh⟩ := floor_bounds hnonneg e
  have hhalf := abs_nearer_sub_le tie hlow hhigh.le
  rw [← hunit] at hhalf
  generalize nearer tie (x * scaled 1 10 (-e)).floor.toNat (x * scaled 1 10 (-e)) = n at *
  -- One step of the grid is the unit, and the distance is measured in steps.
  have hshifted : value ⟨n, e⟩ - x = ((n : Rat) - x * (10 : Rat) ^ (-e)) * (10 : Rat) ^ e := by
    rw [sub_mul, mul_zpow_neg_mul_zpow, value_eq]
  rw [hshifted, abs_mul, abs_of_pos hstep, ← hunit, ← mul_assoc]
  exact mul_le_of_le_one_left hstep.le hhalf

end Grid

/-- The grids that the search has passed over had nothing. -/
theorem onGrid_eq_none_of_search (reads : Rat → Bool) (tie : TieRule) (x : Rat) (finer : Nat)
    (e : Int) {grid : Int} (hpassed : (search reads tie x finer e).exponent < grid)
    (hle : grid ≤ e) : onGrid reads tie x grid = none := by
  -- The induction is on the grids that are left, as in the search.
  induction finer generalizing e with
  | zero =>
      rw [search] at hpassed
      exact absurd hpassed (not_lt.mpr hle)
  | succ finer ih =>
      rw [search] at hpassed
      cases hfound : onGrid reads tie x e with
      | some digits =>
          rw [hfound] at hpassed
          exact absurd hpassed (not_lt.mpr hle)
      | none =>
          rw [hfound] at hpassed
          rcases eq_or_lt_of_le hle with rfl | hless
          · exact hfound
          · exact ih (e - 1) hpassed (by omega)

/-! ### The shortest decimal -/

section Shortest

variable (fmt : BinaryFormat) (tie : TieRule) {m : Nat}

/-- A number lies on the grid of its last place, or on the grid of ones. -/
theorem exists_natCast_eq_mul (m : Nat) :
    ∃ n : Nat, fmt.magnitudeValue m * (10 : Rat) ^ (-min (fmt.lastPlace m) 0) = n := by
  rw [fmt.magnitudeValue_eq]
  rcases le_total 0 (fmt.lastPlace m) with hwhole | hfraction
  · obtain ⟨k, hplace⟩ := Int.eq_ofNat_of_zero_le hwhole
    rw [min_eq_right hwhole, neg_zero, zpow_zero, mul_one, hplace, zpow_natCast]
    exact ⟨fmt.significand m * 2 ^ k, by push_cast; rfl⟩
  · obtain ⟨k, hplace⟩ := Int.eq_ofNat_of_zero_le (neg_nonneg.mpr hfraction)
    -- A power of ten has the powers of two that the place is short of.
    have hten : (10 : Rat) ^ k = (2 : Rat) ^ k * (5 : Rat) ^ k := by
      rw [← mul_pow]
      norm_num
    have hexponent : fmt.lastPlace m = -(k : Int) := by omega
    rw [min_eq_left hfraction, hexponent, neg_neg, zpow_neg, zpow_natCast, zpow_natCast, hten]
    refine ⟨fmt.significand m * 5 ^ k, ?_⟩
    have hnonzero : ((2 : Rat) ^ k) ≠ 0 := pow_ne_zero k two_ne_zero
    push_cast
    rw [mul_assoc, ← mul_assoc ((2 : Rat) ^ k)⁻¹, inv_mul_cancel₀ hnonzero, one_mul]

/-- On the grid on which the number lies, the point found is the number. -/
theorem value_floor_eq (m : Nat) :
    value ⟨(fmt.magnitudeValue m * scaled 1 10 (-min (fmt.lastPlace m) 0)).floor.toNat,
      min (fmt.lastPlace m) 0⟩ = fmt.magnitudeValue m := by
  obtain ⟨n, hwhole⟩ := exists_natCast_eq_mul fmt m
  have hunit : scaled 1 10 (-min (fmt.lastPlace m) 0) = (10 : Rat) ^ (-min (fmt.lastPlace m) 0) :=
    scaled_one (by decide) _
  have hfloor : ((n : Rat)).floor.toNat = n := by
    have hcast : ((n : Rat)).floor = (n : Int) := by exact_mod_cast Rat.floor_intCast (n : Int)
    rw [hcast, Int.toNat_natCast]
  rw [hunit, hwhole, hfloor, value_eq, ← hwhole, mul_zpow_neg_mul_zpow]

/-- The shortest decimal of a number was found on its grid, or it is the number. -/
theorem onGrid_shortest_or_value_eq (hpos : 0 < m) :
    onGrid (fun y => fmt.roundMagnitude y == m) tie (fmt.magnitudeValue m)
        (shortest fmt tie m).exponent = some (shortest fmt tie m).digits
      ∨ (shortest fmt tie m).value = fmt.magnitudeValue m := by
  obtain ⟨-, -, hfound | ⟨hexponent, hdigits⟩⟩ := shortest_cases fmt tie hpos
  · exact .inl hfound
  · right
    have hvalue := value_floor_eq fmt m
    rwa [← hdigits, ← hexponent] at hvalue

/-- The shortest decimal of a number is rounded to the number. -/
theorem roundMagnitude_shortest (hpos : 0 < m) (hfinite : m < fmt.infinity) :
    fmt.roundMagnitude (shortest fmt tie m).value = m := by
  rcases onGrid_shortest_or_value_eq fmt tie hpos with hfound | hexact
  · have hreads := reads_of_onGrid hfound
    exact beq_iff_eq.mp hreads
  · rw [hexact, fmt.roundMagnitude_magnitudeValue hfinite.le]

/-- The digits of a number other than zero are not all zeros, as zero does not read
back as it. -/
theorem digits_shortest_pos (hpos : 0 < m) (hfinite : m < fmt.infinity) :
    0 < (shortest fmt tie m).digits := by
  refine Nat.pos_of_ne_zero fun hzero => ?_
  have hreads := roundMagnitude_shortest fmt tie hpos hfinite
  rw [value_eq, hzero, Nat.cast_zero, zero_mul, fmt.roundMagnitude_of_nonpos (le_refl _)] at hreads
  omega

/-- On a grid that is fine beside the distance of neighbours, both points next to
the number read back, so the nearer one is found. -/
theorem onGrid_of_fine (hpos : 0 < m) (hfinite : m < fmt.infinity) {e : Int}
    (hfine : 2 ^ (fmt.fractionBits + 2) * (10 : Rat) ^ e < fmt.magnitudeValue m) :
    onGrid (fun y => fmt.roundMagnitude y == m) tie (fmt.magnitudeValue m) e
      = some (nearer tie (fmt.magnitudeValue m * scaled 1 10 (-e)).floor.toNat
          (fmt.magnitudeValue m * scaled 1 10 (-e))) := by
  have hunit : (0 : Rat) < (10 : Rat) ^ e := zpow_pos (by norm_num) _
  obtain ⟨hlow, hhigh⟩ := floor_bounds (fmt.magnitudeValue_nonneg m) e
  have hlow' := mul_le_mul_of_nonneg_right hlow hunit.le
  have hhigh' := mul_le_mul_of_nonneg_right hhigh.le hunit.le
  rw [mul_zpow_neg_mul_zpow] at hlow' hhigh'
  -- A point that is one step away is within half of the distance to a neighbour.
  have hreads : ∀ n : Nat, |(n : Rat) * (10 : Rat) ^ e - fmt.magnitudeValue m| ≤ (10 : Rat) ^ e →
      (fmt.roundMagnitude (value ⟨n, e⟩) == m) = true := by
    intro n hnear
    refine beq_iff_eq.mpr (fmt.roundMagnitude_eq_of_near hpos hfinite ?_)
    rw [value_eq]
    exact lt_of_le_of_lt (mul_le_mul_of_nonneg_left hnear (by positivity)) hfine
  unfold onGrid
  dsimp only
  rw [hreads _ (by rw [abs_of_nonpos (by linarith)]; linarith),
    hreads _ (by push_cast; rw [abs_of_nonneg (by linarith)]; linarith)]

/-- As many digits as there are places from the first digit down to the grid. -/
theorem digits_shortest_le_pow (hpos : 0 < m) {k : Nat}
    (hplaces : floorLog10 (fmt.magnitudeValue m) + 1 ≤ (shortest fmt tie m).exponent + k) :
    (shortest fmt tie m).digits ≤ 10 ^ k := by
  have hdigits := digits_shortest_le fmt tie hpos
  have hnext := (floorLog10_spec (fmt.magnitudeValue_pos hpos)).2
  have hsteps : fmt.magnitudeValue m * (10 : Rat) ^ (-(shortest fmt tie m).exponent)
      < ((10 ^ k : Nat) : Rat) := by
    have hexponent : floorLog10 (fmt.magnitudeValue m) + 1 + -(shortest fmt tie m).exponent
        ≤ (k : Int) := by omega
    calc fmt.magnitudeValue m * (10 : Rat) ^ (-(shortest fmt tie m).exponent)
        < (10 : Rat) ^ (floorLog10 (fmt.magnitudeValue m) + 1)
            * (10 : Rat) ^ (-(shortest fmt tie m).exponent) :=
          mul_lt_mul_of_pos_right hnext (zpow_pos (by norm_num) _)
      _ = (10 : Rat) ^ (floorLog10 (fmt.magnitudeValue m) + 1
            + -(shortest fmt tie m).exponent) := (zpow_add₀ (by norm_num) _ _).symm
      _ ≤ (10 : Rat) ^ (k : Int) := zpow_le_zpow_right₀ (by norm_num) hexponent
      _ = ((10 ^ k : Nat) : Rat) := by
          rw [zpow_natCast]
          push_cast
          rfl
  have hbelow : ((shortest fmt tie m).digits : Rat) < ((10 ^ k + 1 : Nat) : Rat) := by
    push_cast at hsteps ⊢
    linarith
  exact Nat.lt_succ_iff.mp (by exact_mod_cast hbelow)

section Fine

variable {k : Nat} (henough : 2 ^ (fmt.fractionBits + 2) < 10 ^ k)
include henough

/-- A grid that is `k` places below the first digit is fine beside the distance
of neighbours. -/
theorem fine_of_places (hpos : 0 < m) :
    2 ^ (fmt.fractionBits + 2) * (10 : Rat) ^ (floorLog10 (fmt.magnitudeValue m) - k)
      < fmt.magnitudeValue m := by
  have hunit : (0 : Rat) < (10 : Rat) ^ (floorLog10 (fmt.magnitudeValue m) - k) :=
    zpow_pos (by norm_num) _
  have hfirst : (10 : Rat) ^ floorLog10 (fmt.magnitudeValue m)
      = 10 ^ k * (10 : Rat) ^ (floorLog10 (fmt.magnitudeValue m) - k) := by
    rw [← zpow_natCast, ← zpow_add₀ (by norm_num), add_sub_cancel]
  have hlow := (floorLog10_spec (fmt.magnitudeValue_pos hpos)).1
  rw [hfirst] at hlow
  refine lt_of_lt_of_le (mul_lt_mul_of_pos_right ?_ hunit) hlow
  exact_mod_cast henough

/-- The search does not need a grid that is more than `k` places below the first
digit. -/
theorem floorLog10_sub_le_exponent (hpos : 0 < m) (hfinite : m < fmt.infinity) :
    floorLog10 (fmt.magnitudeValue m) - k ≤ (shortest fmt tie m).exponent := by
  -- The search would have passed over a grid on which there is a point.
  by_contra hfiner
  have hnonzero : ¬ fmt.significand m = 0 := (fmt.significand_pos hpos).ne'
  rw [shortest, if_neg hnonzero] at hfiner
  have hnothing := onGrid_eq_none_of_search _ _ _ _ _ (not_le.mp hfiner) (by omega)
  rw [onGrid_of_fine fmt tie hpos hfinite (fine_of_places fmt henough hpos)] at hnothing
  cases hnothing

/-- A shortest decimal has few digits, or it lies very near the number. -/
theorem digits_le_or_near (hpos : 0 < m) (hfinite : m < fmt.infinity) :
    (shortest fmt tie m).digits ≤ 10 ^ k
      ∨ 2 * 10 ^ k * |(shortest fmt tie m).value - fmt.magnitudeValue m|
        ≤ fmt.magnitudeValue m := by
  have hleast := floorLog10_sub_le_exponent fmt tie henough hpos hfinite
  have hfirst := (floorLog10_spec (fmt.magnitudeValue_pos hpos)).1
  have hnumber := fmt.magnitudeValue_nonneg m
  -- On the finest grid that is needed the nearer point is taken. On all others there are few
  -- digits.
  rcases eq_or_lt_of_le hleast with hfinest | hcoarser
  · right
    rcases onGrid_shortest_or_value_eq fmt tie hpos with hfound | hexact
    · have hfine := onGrid_of_fine fmt tie hpos hfinite (fine_of_places fmt henough hpos)
      rw [hfinest, hfound] at hfine
      have hhalf := abs_value_nearer_sub_le tie hnumber (shortest fmt tie m).exponent
      rw [← Option.some.inj hfine] at hhalf
      -- One step of the grid is the `k`-th power of ten below the first digit.
      have hpower : 10 ^ k * (10 : Rat) ^ (shortest fmt tie m).exponent
          = (10 : Rat) ^ floorLog10 (fmt.magnitudeValue m) := by
        rw [← hfinest, ← zpow_natCast, ← zpow_add₀ (by norm_num), add_sub_cancel]
      have hnear := mul_le_mul_of_nonneg_left hhalf (show (0 : Rat) ≤ 10 ^ k by positivity)
      calc 2 * 10 ^ k * |(shortest fmt tie m).value - fmt.magnitudeValue m|
          = 10 ^ k * (2 * |(shortest fmt tie m).value - fmt.magnitudeValue m|) := by ring
        _ ≤ (10 : Rat) ^ floorLog10 (fmt.magnitudeValue m) := hpower ▸ hnear
        _ ≤ fmt.magnitudeValue m := hfirst
    · rw [hexact, sub_self, abs_zero, mul_zero]
      exact hnumber
  · exact .inl (digits_shortest_le_pow fmt tie hpos (by omega))

end Fine

end Shortest

end ClassifierBridge.Decimal
