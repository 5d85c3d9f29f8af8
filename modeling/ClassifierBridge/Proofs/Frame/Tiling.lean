import ClassifierBridge.Proofs.Frame.Addressing
import Mathlib.Data.List.Basic

/-!
# `ClassifierBridge.Proofs.Frame.Tiling`: a frame is complete if all its rows are there

Whether a frame is complete is asked of one number, the product of its width, its
height and the bytes of a pixel, capped at the largest word. Its rows are found
one by one, each by an offset of its own. The two agree: a frame is complete
exactly if every row is there, and then the rows cover the expected bytes of the
buffer without a gap and without an overlap.

The cap could only mislead beside a buffer as long as the largest word, where the
capped product compares as if it were exact. So the statements ask for a shorter
one. Every buffer is: a host may hand over half as much
(`HostPixels.lengthLimit`).

* `Frame.expectedLength_eq`: only the last of the two products is ever capped.
* `Frame.isComplete_iff`: so a frame that looks complete is complete.
* `Frame.isComplete_iff_rows`, `Frame.isComplete_iff_lastPixel`: completeness by
  the rows, and by the pixel in the last corner.
* `flatMap_take_drop`: pieces of one size, one after another, are the front of a
  list. Both the rows of a buffer and the pixels of a row are such pieces.
* `Frame.exists_rows`, `Frame.exists_pixels`: what the rows and the pixels of a
  complete frame are, one after another.
* `Frame.completeness`: all of this together.
-/

set_option autoImplicit false

namespace ClassifierBridge

/-! ### Pieces of a list -/

/-- Pieces of one size, one after another, are the front of a list. The list may
end early: pieces behind its end are empty. -/
theorem flatMap_take_drop {α : Type} (items : List α) (size count : Nat) :
    (List.range count).flatMap (fun i => (items.drop (size * i)).take size)
      = items.take (size * count) := by
  induction count with
  | zero => simp
  | succ count ih =>
    rw [List.range_succ, List.flatMap_append, ih, List.flatMap_singleton, Nat.mul_succ,
      List.take_add]

/-- If every item has a value, a list of items has a list of values. What the
values show, one after another, is what the items stand for. -/
theorem exists_mapM_flatMap {α β γ : Type} {value? : α → Option β} {shown : β → List γ}
    {meant : α → List γ} (items : List α)
    (hall : ∀ a ∈ items, ∃ b, value? a = some b ∧ shown b = meant a) :
    ∃ values, items.mapM value? = some values ∧ values.flatMap shown = items.flatMap meant := by
  -- The values are collected item by item, as `mapM` does.
  induction items with
  | nil => exact ⟨[], rfl, rfl⟩
  | cons a items ih =>
    obtain ⟨b, hhead, hsame⟩ := hall a List.mem_cons_self
    obtain ⟨values, htail, hrest⟩ := ih fun c hc => hall c (List.mem_cons_of_mem a hc)
    refine ⟨b :: values, ?_, ?_⟩
    · rw [List.mapM_cons, hhead, htail]
      rfl
    · rw [List.flatMap_cons, List.flatMap_cons, hsame, hrest]

/-- Three items in a row, as a piece of the list. -/
theorem take_drop_of_getElem? {α : Type} {items : List α} {i : Nat} {a b c : α}
    (hfirst : items[i]? = some a) (hsecond : items[i + 1]? = some b)
    (hthird : items[i + 2]? = some c) : (items.drop i).take 3 = [a, b, c] := by
  simp only [List.take_add_one, List.take_zero, List.getElem?_drop, Nat.add_zero, hfirst, hsecond,
    hthird]
  rfl

/-! ### Words -/

/-- A number below a word is kept as a word. -/
theorem toNat_ofNat_of_lt_toNat {n : Nat} {word : UInt32} (hbelow : n < word.toNat) :
    (UInt32.ofNat n).toNat = n :=
  UInt32.toNat_ofNat_of_lt' (Nat.lt_trans hbelow word.toNat_lt)

/-- The word before a positive one. -/
theorem toNat_sub_one_of_pos {n : UInt32} (hpositive : 0 < n) : (n - 1).toNat + 1 = n.toNat := by
  have hone : (n - 1).toNat = n.toNat - 1 := UInt32.toNat_sub_of_le _ _ hpositive
  have hpos : 0 < n.toNat := hpositive
  omega

/-- One less is less, as no word wraps around above zero. -/
theorem sub_one_lt_of_pos {n : UInt32} (hpositive : 0 < n) : n - 1 < n := by
  have hone := toNat_sub_one_of_pos hpositive
  rw [UInt32.lt_iff_toNat_lt]
  omega

/-! ### The expected length -/

/-- The number of pixels is never capped. -/
theorem Dimension.pixels_eq (d : Dimension) : d.pixels = d.width.toNat * d.height.toNat := by
  have hwidth := d.width.toNat_lt
  have hheight := d.height.toNat_lt
  have hbound : d.width.toNat * d.height.toNat ≤ 4294967295 * 4294967295 :=
    Nat.mul_le_mul (by omega) (by omega)
  exact Nat.min_eq_left (Nat.le_trans hbound (by decide))

namespace Frame

variable {f : Frame}

/-- The expected length is the exact one or the largest word. -/
theorem expectedLength_eq (f : Frame) : f.expectedLength
    = min (3 * f.dimension.width.toNat * f.dimension.height.toNat) wordLimit := by
  rw [expectedLength, cappedMul, Dimension.pixels_eq, bytesPerPixel_eq, Nat.mul_comm, Nat.mul_assoc]

/-- No cap makes a frame look complete. -/
theorem isComplete_iff (hword : f.data.size < wordLimit) :
    f.isComplete = true
      ↔ 3 * f.dimension.width.toNat * f.dimension.height.toNat ≤ f.data.size := by
  -- A capped length is the largest word, and no buffer is that long.
  rw [isComplete, decide_eq_true_iff, expectedLength_eq]
  omega

/-- Where a frame is complete, nothing was capped. -/
theorem expectedLength_of_isComplete (hword : f.data.size < wordLimit)
    (hcomplete : f.isComplete = true) :
    f.expectedLength = 3 * f.dimension.width.toNat * f.dimension.height.toNat := by
  have hwhole := (isComplete_iff hword).mp hcomplete
  rw [expectedLength_eq]
  omega

/-! ### Completeness by rows -/

/-- A row is there exactly if the frame has it and the buffer reaches to its end. -/
theorem isSome_row?_iff (hword : f.data.size ≤ wordLimit) {y : UInt32} :
    (f.row? y).isSome = true
      ↔ y < f.dimension.height ∧ 3 * f.dimension.width.toNat * (y.toNat + 1) ≤ f.data.size := by
  constructor
  · intro hthere
    obtain ⟨row, hfound⟩ := Option.isSome_iff_exists.mp hthere
    obtain ⟨hdeclared, hwhole, -⟩ := (row?_eq_some_iff hword).mp hfound
    exact ⟨hdeclared, hwhole⟩
  · rintro ⟨hdeclared, hwhole⟩
    rw [(row?_eq_some_iff hword).mpr ⟨hdeclared, hwhole, rfl⟩]
    rfl

/-- The rows of a complete frame end inside the buffer. -/
theorem rowEnd_le_of_isComplete (hword : f.data.size < wordLimit) (hcomplete : f.isComplete = true)
    {y : Nat} (hdeclared : y < f.dimension.height.toNat) :
    3 * f.dimension.width.toNat * (y + 1) ≤ f.data.size :=
  Nat.le_trans (Nat.mul_le_mul_left _ hdeclared) ((isComplete_iff hword).mp hcomplete)

/-- A frame that has rows is complete exactly if the last of them is there. -/
theorem isComplete_iff_lastRow (hword : f.data.size < wordLimit) (htall : 0 < f.dimension.height) :
    f.isComplete = true ↔ (f.row? (f.dimension.height - 1)).isSome = true := by
  rw [isSome_row?_iff (Nat.le_of_lt hword), isComplete_iff hword, toNat_sub_one_of_pos htall]
  exact (and_iff_right (sub_one_lt_of_pos htall)).symm

/-- A frame is complete exactly if all its rows are there. -/
theorem isComplete_iff_rows (hword : f.data.size < wordLimit) :
    f.isComplete = true ↔ ∀ y < f.dimension.height, (f.row? y).isSome = true := by
  constructor
  · intro hcomplete y hdeclared
    exact (isSome_row?_iff (Nat.le_of_lt hword)).mpr
      ⟨hdeclared, rowEnd_le_of_isComplete hword hcomplete hdeclared⟩
  · intro hrows
    -- Without rows a frame asks for no bytes; otherwise its last row decides.
    by_cases htall : 0 < f.dimension.height
    · exact (isComplete_iff_lastRow hword htall).mpr (hrows _ (sub_one_lt_of_pos htall))
    · have hflat : f.dimension.height.toNat = 0 := Nat.eq_zero_of_not_pos htall
      rw [isComplete_iff hword, hflat]
      exact Nat.zero_le _

/-- A frame that has pixels is complete exactly if the one in the last corner is
there. -/
theorem isComplete_iff_lastPixel (hword : f.data.size < wordLimit) (hwide : 0 < f.dimension.width)
    (htall : 0 < f.dimension.height) :
    f.isComplete = true
      ↔ (f.pixel? (f.dimension.width - 1) (f.dimension.height - 1)).isSome = true := by
  rw [isComplete_iff_lastRow hword htall]
  constructor
  · -- The last row is there with all its pixels.
    intro hthere
    obtain ⟨row, hfound⟩ := Option.isSome_iff_exists.mp hthere
    obtain ⟨r, g, b, hpixel, -⟩ :=
      pixel?_of_row? (Nat.le_of_lt hword) (sub_one_lt_of_pos hwide) hfound
    rw [hpixel]
    rfl
  · intro hthere
    obtain ⟨pixel, hfound⟩ := Option.isSome_iff_exists.mp hthere
    exact Option.isSome_iff_exists.mpr (exists_row_of_pixel? hfound).2

/-! ### The rows and the pixels, one after another -/

/-- The bytes of the buffer. -/
def bytes (f : Frame) : List UInt8 := f.data.data.toList

/-- All rows from the top, or nothing if one is missing. -/
def rows? (f : Frame) : Option (List ByteArray) :=
  (List.range f.dimension.height.toNat).mapM fun y => f.row? (.ofNat y)

/-- Where the pixels are, by column and row: row by row, each from the left. -/
def places (f : Frame) : List (UInt32 × UInt32) :=
  (List.range f.dimension.height.toNat).flatMap fun y =>
    (List.range f.dimension.width.toNat).map fun x => (.ofNat x, .ofNat y)

/-- All pixels row by row, each row from the left, or nothing if one is missing. -/
def pixels? (f : Frame) : Option (List (UInt8 × UInt8 × UInt8)) :=
  f.places.mapM fun place => f.pixel? place.1 place.2

/-- The three bytes of a pixel. -/
def pixelBytes (pixel : UInt8 × UInt8 × UInt8) : List UInt8 := [pixel.1, pixel.2.1, pixel.2.2]

/-- A byte of the list is the byte of the buffer at the same place. -/
theorem getElem?_bytes (f : Frame) (i : Nat) : f.bytes[i]? = f.data[i]? := by
  unfold bytes
  rw [Array.getElem?_toList]
  rfl

/-- A part of the buffer as a list. -/
theorem toList_extract (f : Frame) (start stop : Nat) :
    (f.data.extract start stop).data.toList = (f.bytes.drop start).take (stop - start) := by
  rw [ByteArray.data_extract, Array.toList_extract]
  rfl

/-- The rows of a complete frame are all there, and one after another they are the
expected bytes. -/
theorem exists_rows (hword : f.data.size < wordLimit) (hcomplete : f.isComplete = true) :
    ∃ rows, f.rows? = some rows
      ∧ rows.flatMap (·.data.toList) = f.bytes.take f.expectedLength := by
  rw [expectedLength_of_isComplete hword hcomplete, ← flatMap_take_drop]
  refine exists_mapM_flatMap _ fun y hlisted => ?_
  have hdeclared := List.mem_range.mp hlisted
  have hnumber := toNat_ofNat_of_lt_toNat hdeclared
  -- Each row is the piece of the buffer at its place.
  refine ⟨_, (row?_eq_some_iff (Nat.le_of_lt hword)).mpr ⟨?_, ?_, rfl⟩, ?_⟩
  · rw [UInt32.lt_iff_toNat_lt, hnumber]
    exact hdeclared
  · rw [hnumber]
    exact rowEnd_le_of_isComplete hword hcomplete hdeclared
  · rw [toList_extract, hnumber, Nat.mul_succ, Nat.add_sub_cancel_left]

/-- Every place is inside the frame. -/
theorem lt_of_mem_places {place : UInt32 × UInt32} (hlisted : place ∈ f.places) :
    place.1 < f.dimension.width ∧ place.2 < f.dimension.height := by
  obtain ⟨y, hdeclared, hinside⟩ := List.mem_flatMap.mp hlisted
  obtain ⟨x, hcolumn, rfl⟩ := List.mem_map.mp hinside
  rw [UInt32.lt_iff_toNat_lt, UInt32.lt_iff_toNat_lt,
    toNat_ofNat_of_lt_toNat (List.mem_range.mp hdeclared),
    toNat_ofNat_of_lt_toNat (List.mem_range.mp hcolumn)]
  exact ⟨List.mem_range.mp hcolumn, List.mem_range.mp hdeclared⟩

/-- The three bytes at each place are those of one pixel after another. -/
theorem flatMap_places (f : Frame) :
    f.places.flatMap (fun place =>
        (f.bytes.drop (3 * (f.dimension.width.toNat * place.2.toNat + place.1.toNat))).take 3)
      = f.bytes.take (3 * f.dimension.width.toNat * f.dimension.height.toNat) := by
  -- Pieces of pieces: the rows of the buffer, and in each row its pixels.
  rw [places, List.flatMap_assoc, ← flatMap_take_drop]
  refine List.flatMap_congr fun y hlisted => ?_
  rw [List.flatMap_map, ← flatMap_take_drop]
  refine List.flatMap_congr fun x hinside => ?_
  dsimp only
  rw [toNat_ofNat_of_lt_toNat (List.mem_range.mp hlisted),
    toNat_ofNat_of_lt_toNat (List.mem_range.mp hinside), List.drop_drop, Nat.mul_add, Nat.mul_assoc]

/-- The pixels of a complete frame are all there, and three bytes after three they
are the expected bytes. -/
theorem exists_pixels (hword : f.data.size < wordLimit) (hcomplete : f.isComplete = true) :
    ∃ pixels, f.pixels? = some pixels
      ∧ pixels.flatMap pixelBytes = f.bytes.take f.expectedLength := by
  rw [expectedLength_of_isComplete hword hcomplete, ← flatMap_places]
  refine exists_mapM_flatMap _ fun place hlisted => ?_
  obtain ⟨hcolumn, hdeclared⟩ := lt_of_mem_places hlisted
  obtain ⟨row, hfound⟩ :=
    Option.isSome_iff_exists.mp ((isComplete_iff_rows hword).mp hcomplete _ hdeclared)
  -- Its three bytes lie side by side in the buffer, so they are the piece at its place.
  obtain ⟨r, g, b, hpixel, hred, hgreen, hblue⟩ :=
    pixel?_of_row? (Nat.le_of_lt hword) hcolumn hfound
  rw [← getElem?_bytes] at hred hgreen hblue
  exact ⟨_, hpixel, (take_drop_of_getElem? hred hgreen hblue).symm⟩

/-- A frame is complete exactly if its buffer has three bytes for every pixel, and
exactly if all its rows are there; no cap makes an incomplete frame look complete.
Then the rows, from the top and one after another, are the expected bytes of the
buffer, and so are the pixels in the same order, three bytes each. If the frame
has pixels at all, then it is complete exactly if the one in the last corner is
there. -/
theorem completeness (f : Frame) (hword : f.data.size < wordLimit) :
    let w := f.dimension.width
    let h := f.dimension.height
    (f.isComplete = true ↔ 3 * w.toNat * h.toNat ≤ f.data.size)
      ∧ (f.isComplete = true ↔ ∀ y < h, (f.row? y).isSome = true)
      ∧ (f.isComplete = true → f.expectedLength = 3 * w.toNat * h.toNat
          ∧ (∃ rows, f.rows? = some rows
            ∧ rows.flatMap (·.data.toList) = f.bytes.take f.expectedLength)
          ∧ ∃ pixels, f.pixels? = some pixels
            ∧ pixels.flatMap pixelBytes = f.bytes.take f.expectedLength)
      ∧ (0 < w → 0 < h → (f.isComplete = true ↔ (f.pixel? (w - 1) (h - 1)).isSome = true)) := by
  intro w h
  refine ⟨isComplete_iff hword, isComplete_iff_rows hword, fun hcomplete => ?_,
    isComplete_iff_lastPixel hword⟩
  exact ⟨expectedLength_of_isComplete hword hcomplete, exists_rows hword hcomplete,
    exists_pixels hword hcomplete⟩

/-- Two rows of two pixels with a byte to spare; as many rows as there can be,
all of them empty; and the largest frame, whose expected length is capped. -/
theorem completeness_spare_byte :
    let data : ByteArray := ⟨#[255, 0, 0, 0, 255, 0, 0, 0, 255, 255, 255, 254, 7]⟩
    let small : Frame := ⟨data, ⟨2, 2⟩, .rgb⟩
    let thin : Frame := ⟨data, ⟨0, 4294967295⟩, .rgb⟩
    let large : Frame := ⟨data, ⟨4294967295, 4294967295⟩, .rgb⟩
    data.size < wordLimit
      ∧ (∃ rows, small.rows? = some rows
        ∧ rows.flatMap (·.data.toList) = [255, 0, 0, 0, 255, 0, 0, 0, 255, 255, 255, 254])
      ∧ (∃ pixels, small.pixels? = some pixels
        ∧ pixels.flatMap pixelBytes = [255, 0, 0, 0, 255, 0, 0, 0, 255, 255, 255, 254])
      ∧ (small.pixel? 1 1).isSome = true
      ∧ (∀ y < 4294967295, (thin.row? y).isSome = true)
      ∧ large.expectedLength = wordLimit ∧ ¬ large.isComplete = true := by
  intro data small thin large
  have hword : data.size < wordLimit := by decide
  obtain ⟨-, -, htiles, hcorner⟩ := small.completeness hword
  obtain ⟨-, hrows, hpixels⟩ := htiles (by decide)
  rw [show small.expectedLength = 12 from by decide] at hrows hpixels
  have hlast : (small.pixel? (2 - 1) (2 - 1)).isSome = true :=
    (hcorner (by decide) (by decide)).mp (by decide)
  rw [show (2 : UInt32) - 1 = 1 from by decide] at hlast
  -- The four billion rows are not looked at one by one: they follow from completeness.
  obtain ⟨-, hrowsThere, -⟩ := thin.completeness hword
  obtain ⟨hwhole, -⟩ := large.completeness hword
  have hshort : ¬ 3 * large.dimension.width.toNat * large.dimension.height.toNat ≤ data.size := by
    decide
  exact ⟨hword, hrows, hpixels, hlast, hrowsThere.mp (by decide), by decide, mt hwhole.mp hshort⟩

end Frame

end ClassifierBridge
