/-!
# `ClassifierBridge.Text.Utf8`: reading bytes as text

`Utf8.decode?` reads a byte string as UTF-8 and refuses it as a whole when a
single sequence is ill formed. A sequence is a lead byte, which fixes its
length, and the continuation bytes `80..BF`; the second byte has a narrower
range after the four lead bytes whose sequences could otherwise spell a value
too small for their length, a surrogate, or a value above `10FFFF`.
-/

set_option autoImplicit false

namespace ClassifierBridge.Utf8

/-- A byte that continues a sequence. -/
def isContinuation (b : UInt8) : Bool := 0x80 ≤ b && b ≤ 0xBF

/-- The second bytes allowed after the lead byte of a three-byte sequence:
`E0` excludes what two bytes can write, `ED` excludes surrogates. -/
def isSecondOfThree (lead b : UInt8) : Bool :=
  (if lead = 0xE0 then 0xA0 else 0x80) ≤ b && b ≤ (if lead = 0xED then 0x9F else 0xBF)

/-- The second bytes allowed after the lead byte of a four-byte sequence: `F0`
excludes what three bytes can write, `F4` excludes values above `10FFFF`. -/
def isSecondOfFour (lead b : UInt8) : Bool :=
  (if lead = 0xF0 then 0x90 else 0x80) ≤ b && b ≤ (if lead = 0xF4 then 0x8F else 0xBF)

/-- The six bits that a continuation byte carries. -/
def payload (b : UInt8) : Nat := b.toNat % 64

/-- The characters that the bytes spell, or `none` if they are not UTF-8. -/
def decode? : List UInt8 → Option (List Char)
  | [] => some []
  | a :: rest =>
    -- One byte: the code point itself.
    if a < 0x80 then
      (decode? rest).map (Char.ofNat a.toNat :: ·)
    -- Two bytes. `C0` and `C1` would spell what one byte can.
    else if 0xC2 ≤ a && a ≤ 0xDF then
      match rest with
      | b :: rest =>
        if isContinuation b then
          (decode? rest).map (Char.ofNat (a.toNat % 32 * 64 + payload b) :: ·)
        else none
      | _ => none
    -- Three bytes.
    else if 0xE0 ≤ a && a ≤ 0xEF then
      match rest with
      | b :: c :: rest =>
        if isSecondOfThree a b && isContinuation c then
          (decode? rest).map
            (Char.ofNat (a.toNat % 16 * 4096 + payload b * 64 + payload c) :: ·)
        else none
      | _ => none
    -- Four bytes. `F5` and above would spell values above `10FFFF`.
    else if 0xF0 ≤ a && a ≤ 0xF4 then
      match rest with
      | b :: c :: d :: rest =>
        if isSecondOfFour a b && isContinuation c && isContinuation d then
          (decode? rest).map
            (Char.ofNat
              (a.toNat % 8 * 262144 + payload b * 4096 + payload c * 64 + payload d) :: ·)
        else none
      | _ => none
    else none

/-- The number of bytes that a text takes. -/
def byteLength (text : List Char) : Nat := text.foldr (fun c n => c.utf8Size + n) 0

/-- The bytes of a text are those of its characters. -/
theorem byteLength_cons (c : Char) (text : List Char) :
    byteLength (c :: text) = c.utf8Size + byteLength text := rfl

end ClassifierBridge.Utf8
