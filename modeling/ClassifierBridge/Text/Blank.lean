import ClassifierBridge.Text.Ranges

/-!
# `ClassifierBridge.Text.Blank`: the blanks around a text

A blank is a character that only separates: the space, the tabulators, the line
ends, and the spaces of every width. `trim` takes the blanks off both ends of a
text and leaves those inside.
-/

set_option autoImplicit false

namespace ClassifierBridge.Text

/-- The ranges of code points whose characters are blanks. -/
def blankRanges : List (Nat × Nat) :=
  [(0x0009, 0x000D), (0x0020, 0x0020), (0x0085, 0x0085), (0x00A0, 0x00A0), (0x1680, 0x1680),
   (0x2000, 0x200A), (0x2028, 0x2029), (0x202F, 0x202F), (0x205F, 0x205F), (0x3000, 0x3000)]

/-- Whether a character is a blank. -/
def isBlank (c : Char) : Bool := inRanges blankRanges c

/-- A text without the blanks at its ends. -/
def trim (text : List Char) : List Char :=
  ((text.dropWhile isBlank).reverse.dropWhile isBlank).reverse

end ClassifierBridge.Text
