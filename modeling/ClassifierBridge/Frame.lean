/-!
# `ClassifierBridge.Frame`: an image buffer with its declared size

A frame is the bytes that a host handed over and the size it declared for them.
Nothing ties the two together: a short buffer is a frame too, of which some rows
and pixels are missing, and what to do about it is up to the engine.

Lengths and offsets are computed in 64-bit words. A product that leaves the word
is capped where the result is a length to compare with, and refused where it is
an offset, so an overflow never turns into a valid address.
-/

set_option autoImplicit false

namespace ClassifierBridge

/-- The largest length or offset, the largest word of 64 bits. -/
def wordLimit : Nat := 18446744073709551615

/-- A product, capped at the largest word. -/
def cappedMul (a b : Nat) : Nat := min (a * b) wordLimit

/-- A product, if it is a word. -/
def mul? (a b : Nat) : Option Nat := if a * b ≤ wordLimit then some (a * b) else none

/-- A sum, if it is a word. -/
def add? (a b : Nat) : Option Nat := if a + b ≤ wordLimit then some (a + b) else none

/-- A size in pixels. -/
structure Dimension where
  width : UInt32
  height : UInt32
deriving DecidableEq, Repr

/-- The number of pixels. -/
def Dimension.pixels (d : Dimension) : Nat := cappedMul d.width.toNat d.height.toNat

/-- How the bytes of a pixel are laid out. -/
inductive PixelFormat where
  /-- red, green and blue, one byte each -/
  | rgb
deriving DecidableEq, Repr

/-- One byte for each channel. -/
def PixelFormat.bytesPerPixel : PixelFormat → Nat
  | .rgb => 3

/-- A buffer of pixels, row by row without gaps, and its declared size. -/
structure Frame where
  data : ByteArray
  dimension : Dimension
  format : PixelFormat := .rgb

namespace Frame

/-- The bytes that the declared size asks for. -/
def expectedLength (f : Frame) : Nat :=
  cappedMul f.dimension.pixels f.format.bytesPerPixel

/-- Whether the buffer covers the declared size. -/
def isComplete (f : Frame) : Bool := decide (f.expectedLength ≤ f.data.size)

/-- The bytes of one row. -/
def stride (f : Frame) : Nat := cappedMul f.dimension.width.toNat f.format.bytesPerPixel

/-- The bytes of row `y`, if the frame has such a row and the buffer all of it. -/
def row? (f : Frame) (y : UInt32) : Option ByteArray :=
  if y < f.dimension.height then
    -- An offset that is no word lies past the end of any buffer.
    match mul? y.toNat f.stride with
    | none => none
    | some start =>
      match add? start f.stride with
      | none => none
      | some stop => if stop ≤ f.data.size then some (f.data.extract start stop) else none
  else none

/-- The red, green and blue of the pixel in column `x` of row `y`, if it is
there. -/
def pixel? (f : Frame) (x y : UInt32) : Option (UInt8 × UInt8 × UInt8) :=
  if x < f.dimension.width then
    match f.row? y with
    | none => none
    | some row =>
      -- The row holds `width` pixels, so this is an offset inside it.
      let i := x.toNat * f.format.bytesPerPixel
      match row[i]?, row[i + 1]?, row[i + 2]? with
      | some r, some g, some b => some (r, g, b)
      | _, _, _ => none
  else none

end Frame

end ClassifierBridge
