import ClassifierBridge.Frame

/-!
# `ClassifierBridge.Proofs.Frame.Addressing`: rows and pixels by exact arithmetic

Rows and pixels are found with words of 64 bits: the length of a row is a capped
product, and an offset is refused if it is no word. Beside a buffer whose length
is a word this comes to exact arithmetic. A row has at most `3 * (2 ^ 32 - 1)`
bytes, so its length is never capped; and an offset that is no word lies behind
the buffer, where no row is.

* `Frame.row?_eq_some_iff`: which rows are there, and where they lie.
* `Frame.lt_size_of_row?`: the bytes of a pixel are inside a row that is there.
* `Frame.pixel?_of_row?`: so all pixels of such a row are there.
* `Frame.addressing`: both together, and what becomes of overflows.
-/

set_option autoImplicit false

namespace ClassifierBridge

/-! ### Words -/

/-- A checked product is the product, where it is a word. -/
theorem mul?_eq_some_iff {a b n : Nat} : mul? a b = some n ↔ a * b ≤ wordLimit ∧ a * b = n := by
  rw [mul?, Option.ite_none_right_eq_some, Option.some.injEq]

/-- A checked sum is the sum, where it is a word. -/
theorem add?_eq_some_iff {a b n : Nat} : add? a b = some n ↔ a + b ≤ wordLimit ∧ a + b = n := by
  rw [add?, Option.ite_none_right_eq_some, Option.some.injEq]

/-- A product is only refused where it is no word. -/
theorem lt_of_mul?_eq_none {a b : Nat} (hnone : mul? a b = none) : wordLimit < a * b := by
  refine Nat.lt_of_not_le fun hword => ?_
  rw [mul?_eq_some_iff.mpr ⟨hword, rfl⟩] at hnone
  cases hnone

/-- A sum is only refused where it is no word. -/
theorem lt_of_add?_eq_none {a b : Nat} (hnone : add? a b = none) : wordLimit < a + b := by
  refine Nat.lt_of_not_le fun hword => ?_
  rw [add?_eq_some_iff.mpr ⟨hword, rfl⟩] at hnone
  cases hnone

/-! ### Bytes -/

/-- A byte of a part of a buffer, by its place in the buffer. -/
theorem getElem?_extract {data : ByteArray} {start stop i : Nat} (hwhole : stop ≤ data.size)
    (hinside : start + i < stop) : (data.extract start stop)[i]? = data[start + i]? := by
  have hsize : i < (data.extract start stop).size := by
    rw [ByteArray.size_extract]
    omega
  have hplace : start + i < data.size := by omega
  rw [getElem?_pos (data.extract start stop) i hsize, getElem?_pos data (start + i) hplace,
    ByteArray.getElem_extract]

namespace Frame

variable {f : Frame}

/-- There is one format so far, and it has three channels. -/
theorem bytesPerPixel_eq (format : PixelFormat) : format.bytesPerPixel = 3 := by
  cases format
  rfl

/-- The length of a row is never capped. -/
theorem stride_eq (f : Frame) : f.stride = 3 * f.dimension.width.toNat := by
  have hwidth := f.dimension.width.toNat_lt
  have hlimit : wordLimit = 18446744073709551615 := rfl
  -- Three times a width of 32 bits fits a word of 64.
  rw [stride, cappedMul, bytesPerPixel_eq]
  omega

/-- Row after row. -/
theorem rowEnd_eq (f : Frame) (y : Nat) :
    y * f.stride + f.stride = 3 * f.dimension.width.toNat * (y + 1) := by
  rw [stride_eq, Nat.mul_succ, Nat.mul_comm]

/-- The rows that are there are those that the declared size and the buffer have,
and they lie one after another. -/
theorem row?_eq_some_iff (hword : f.data.size ≤ wordLimit) {y : UInt32} {row : ByteArray} :
    f.row? y = some row
      ↔ y < f.dimension.height ∧ 3 * f.dimension.width.toNat * (y.toNat + 1) ≤ f.data.size
        ∧ row = f.data.extract (3 * f.dimension.width.toNat * y.toNat)
            (3 * f.dimension.width.toNat * (y.toNat + 1)) := by
  have hstop := f.rowEnd_eq y.toNat
  have hstart : y.toNat * f.stride = 3 * f.dimension.width.toNat * y.toNat := by
    rw [stride_eq, Nat.mul_comm]
  rw [← hstop, ← hstart]
  unfold row?
  constructor
  · -- What was computed on the way is exact, and the last test is about the buffer.
    intro hfound
    split at hfound
    · next hdeclared =>
        split at hfound
        · cases hfound
        · next offset hproduct =>
            obtain ⟨-, rfl⟩ := mul?_eq_some_iff.mp hproduct
            split at hfound
            · cases hfound
            · next limit hsum =>
                obtain ⟨-, rfl⟩ := add?_eq_some_iff.mp hsum
                split at hfound
                · next hwhole => exact ⟨hdeclared, hwhole, (Option.some.inj hfound).symm⟩
                · cases hfound
    · cases hfound
  · rintro ⟨hdeclared, hwhole, rfl⟩
    -- A row that ends inside the buffer has offsets that are words.
    have hsum : y.toNat * f.stride + f.stride ≤ wordLimit := Nat.le_trans hwhole hword
    have hproduct : y.toNat * f.stride ≤ wordLimit := Nat.le_trans (Nat.le_add_right _ _) hsum
    rw [if_pos hdeclared, mul?_eq_some_iff.mpr ⟨hproduct, rfl⟩]
    dsimp only
    rw [add?_eq_some_iff.mpr ⟨hsum, rfl⟩]
    dsimp only
    rw [if_pos hwhole]

/-- The three bytes of a pixel are inside a row that is there. -/
theorem lt_size_of_row? (hword : f.data.size ≤ wordLimit) {x y : UInt32} {row : ByteArray}
    (hcolumn : x < f.dimension.width) (hfound : f.row? y = some row) :
    x.toNat * f.format.bytesPerPixel + 2 < row.size := by
  obtain ⟨-, hwhole, rfl⟩ := (row?_eq_some_iff hword).mp hfound
  have hwidth := UInt32.lt_iff_toNat_lt.mp hcolumn
  rw [ByteArray.size_extract, Nat.min_eq_left hwhole, bytesPerPixel_eq,
    Nat.mul_succ (3 * f.dimension.width.toNat), Nat.add_sub_cancel_left]
  omega

/-- A byte of a row, by its place in the buffer. -/
theorem getElem?_row (hword : f.data.size ≤ wordLimit) {y : UInt32} {row : ByteArray}
    (hfound : f.row? y = some row) {i : Nat} (hinside : i < row.size) :
    row[i]? = f.data[3 * f.dimension.width.toNat * y.toNat + i]? := by
  obtain ⟨-, hwhole, rfl⟩ := (row?_eq_some_iff hword).mp hfound
  rw [ByteArray.size_extract] at hinside
  exact getElem?_extract hwhole (by omega)

/-- All pixels of a row that is there are there. -/
theorem pixel?_of_row? (hword : f.data.size ≤ wordLimit) {x y : UInt32} {row : ByteArray}
    (hcolumn : x < f.dimension.width) (hfound : f.row? y = some row) :
    ∃ r g b, f.pixel? x y = some (r, g, b)
      ∧ f.data[3 * (f.dimension.width.toNat * y.toNat + x.toNat)]? = some r
      ∧ f.data[3 * (f.dimension.width.toNat * y.toNat + x.toNat) + 1]? = some g
      ∧ f.data[3 * (f.dimension.width.toNat * y.toNat + x.toNat) + 2]? = some b := by
  have hlast := lt_size_of_row? hword hcolumn hfound
  have hplace : ∀ k, x.toNat * f.format.bytesPerPixel + k < row.size →
      row[x.toNat * f.format.bytesPerPixel + k]?
        = f.data[3 * (f.dimension.width.toNat * y.toNat + x.toNat) + k]? := by
    intro k hinside
    rw [getElem?_row hword hfound hinside, bytesPerPixel_eq, Nat.mul_add, Nat.mul_assoc]
    congr 1
    omega
  -- All three places are inside the row, so all three bytes are there.
  have hbyte : ∀ k, k ≤ 2 → ∃ v, row[x.toNat * f.format.bytesPerPixel + k]? = some v
      ∧ f.data[3 * (f.dimension.width.toNat * y.toNat + x.toNat) + k]? = some v := by
    intro k hsmall
    have hinside : x.toNat * f.format.bytesPerPixel + k < row.size := by omega
    refine ⟨row[x.toNat * f.format.bytesPerPixel + k], getElem?_pos row _ hinside, ?_⟩
    rw [← hplace k hinside]
    exact getElem?_pos row _ hinside
  obtain ⟨r, hred, hred'⟩ := hbyte 0 (by decide)
  obtain ⟨g, hgreen, hgreen'⟩ := hbyte 1 (by decide)
  obtain ⟨b, hblue, hblue'⟩ := hbyte 2 (by decide)
  rw [Nat.add_zero] at hred hred'
  refine ⟨r, g, b, ?_, hred', hgreen', hblue'⟩
  simp only [pixel?, if_pos hcolumn, hfound, hred, hgreen, hblue]

/-- A pixel is only there in a column of the frame and a row that is there. -/
theorem exists_row_of_pixel? {x y : UInt32} {pixel : UInt8 × UInt8 × UInt8}
    (hfound : f.pixel? x y = some pixel) : x < f.dimension.width ∧ ∃ row, f.row? y = some row := by
  unfold pixel? at hfound
  split at hfound
  · next hcolumn =>
      split at hfound
      · cases hfound
      · next row hthere => exact ⟨hcolumn, row, hthere⟩
  · cases hfound

/-- A pixel that is there is the three bytes at its place. -/
theorem getElem?_of_pixel? (hword : f.data.size ≤ wordLimit) {x y : UInt32} {r g b : UInt8}
    (hfound : f.pixel? x y = some (r, g, b)) :
    f.data[3 * (f.dimension.width.toNat * y.toNat + x.toNat)]? = some r
      ∧ f.data[3 * (f.dimension.width.toNat * y.toNat + x.toNat) + 1]? = some g
      ∧ f.data[3 * (f.dimension.width.toNat * y.toNat + x.toNat) + 2]? = some b := by
  obtain ⟨hcolumn, row, hthere⟩ := exists_row_of_pixel? hfound
  -- Its row is there, and the row has the pixel with these bytes.
  obtain ⟨r', g', b', hpixel, hbytes⟩ := pixel?_of_row? hword hcolumn hthere
  rw [hfound] at hpixel
  cases hpixel
  exact hbytes

/-- Rows and pixels are found as by arithmetic without limits. Row `y` is there
exactly if the frame has it and the buffer has all its bytes, and it is those
bytes; a pixel is there exactly if its column and its row are, and it is the
three bytes at its place. Nothing is lost to the limits on the way: the length
of a row is not capped, an offset of a row is only refused where the row is not
there, and the offsets of a pixel are words that lie inside its row. -/
theorem addressing (f : Frame) (hword : f.data.size ≤ wordLimit) (x y : UInt32) :
    let w := f.dimension.width.toNat
    let place := 3 * (w * y.toNat + x.toNat)
    (∀ row, f.row? y = some row
        ↔ y < f.dimension.height ∧ 3 * w * (y.toNat + 1) ≤ f.data.size
          ∧ row = f.data.extract (3 * w * y.toNat) (3 * w * (y.toNat + 1)))
      ∧ ((f.pixel? x y).isSome = true ↔ x < f.dimension.width ∧ (f.row? y).isSome = true)
      ∧ (∀ r g b, f.pixel? x y = some (r, g, b) →
          f.data[place]? = some r ∧ f.data[place + 1]? = some g ∧ f.data[place + 2]? = some b)
      ∧ f.stride = 3 * w
      ∧ (mul? y.toNat f.stride = none → f.data.size < 3 * w * (y.toNat + 1))
      ∧ (∀ start, mul? y.toNat f.stride = some start → add? start f.stride = none →
          f.data.size < 3 * w * (y.toNat + 1))
      ∧ x.toNat * f.format.bytesPerPixel + 2 ≤ wordLimit
      ∧ ∀ row, x < f.dimension.width → f.row? y = some row →
          x.toNat * f.format.bytesPerPixel + 2 < row.size := by
  dsimp only
  have hlimit : wordLimit = 18446744073709551615 := rfl
  refine ⟨fun row => row?_eq_some_iff hword, ⟨fun hthere => ?_, ?_⟩,
    fun r g b => getElem?_of_pixel? hword, f.stride_eq, fun hproduct => ?_,
    fun start hproduct hsum => ?_, ?_, fun row => lt_size_of_row? hword⟩
  · obtain ⟨pixel, hfound⟩ := Option.isSome_iff_exists.mp hthere
    obtain ⟨hcolumn, hrow⟩ := exists_row_of_pixel? hfound
    exact ⟨hcolumn, Option.isSome_iff_exists.mpr hrow⟩
  · rintro ⟨hcolumn, hthere⟩
    obtain ⟨row, hfound⟩ := Option.isSome_iff_exists.mp hthere
    obtain ⟨r, g, b, hpixel, -⟩ := pixel?_of_row? hword hcolumn hfound
    rw [hpixel]
    rfl
  · -- An offset that is no word lies behind every buffer.
    have hbehind := lt_of_mul?_eq_none hproduct
    rw [← f.rowEnd_eq]
    omega
  · obtain ⟨-, rfl⟩ := mul?_eq_some_iff.mp hproduct
    have hbehind := lt_of_add?_eq_none hsum
    rw [← f.rowEnd_eq]
    omega
  · have hcolumn := x.toNat_lt
    rw [bytesPerPixel_eq]
    omega

/-- Two rows of two pixels, and the largest frame, where the offset of the last
row is no word: that row is missing from the same buffer, as it should be. -/
theorem addressing_corners :
    let data : ByteArray := ⟨#[255, 0, 0, 0, 255, 0, 0, 0, 255, 255, 255, 254]⟩
    let small : Frame := ⟨data, ⟨2, 2⟩, .rgb⟩
    let large : Frame := ⟨data, ⟨4294967295, 4294967295⟩, .rgb⟩
    data.size ≤ wordLimit
      ∧ small.row? 1 = some (data.extract 6 12) ∧ (small.pixel? 1 1).isSome = true
      ∧ mul? 4294967294 large.stride = none ∧ data.size < 3 * 4294967295 * 4294967295 := by
  intro data small large
  have hword : data.size ≤ wordLimit := by decide
  obtain ⟨hrow, hpixel, -⟩ := small.addressing hword 1 1
  have hlast := (hrow (data.extract 6 12)).mpr ⟨by decide, by decide, rfl⟩
  obtain ⟨-, -, -, -, hbehind, -⟩ := large.addressing hword 0 4294967294
  have hproduct : mul? 4294967294 large.stride = none := by decide
  exact ⟨hword, hlast, hpixel.mpr ⟨by decide, by rw [hlast]; rfl⟩, hproduct, hbehind hproduct⟩

end Frame

end ClassifierBridge
