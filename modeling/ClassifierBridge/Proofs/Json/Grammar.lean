import ClassifierBridge.Json.Number

/-!
# `ClassifierBridge.Proofs.Json.Grammar`: which texts are JSON

The grammar of JSON as relations between a text and what it spells. They refer
to none of the readers: a character has several spellings, blanks stand wherever
they may, and a derivation says which part of the text is which. That the
readers accept exactly these texts is the business of the modules beside this
one.

* `CharSpelling`, `TextSpelling`: the characters of a string and their escapes.
* `LiteralSpelling`: number literals, by their parts.
* `Separated`, `Bracketed`: the items of a list or an object, for any kind of
  item.
* `Spelling`, `Document`: the spellings of a `Tree`, and whole texts.

Numbers are kept as the literals that are written; what a literal is worth is
up to the place that asks for it.
-/

set_option autoImplicit false

namespace ClassifierBridge.Json

/-- A JSON value. Members keep their order and may share a key. -/
inductive Tree where
  | null
  | bool (b : Bool)
  | number (l : Literal)
  | string (text : List Char)
  | list (items : List Tree)
  | object (members : List (List Char × Tree))

/-- White space, in any amount. -/
def Blanks (s : List Char) : Prop := ∀ c ∈ s, c ∈ [' ', '\t', '\n', '\r']

/-- Blanks, letters and digits are few: what holds of all of them can be looked
at one by one, as a list of characters and not over all characters. -/
theorem forall_mem_of_all {α : Type} {P : α → Prop} [DecidablePred P] {l : List α}
    (hall : l.all (fun c => decide (P c)) = true) : ∀ c ∈ l, P c := by
  intro c hmem
  exact of_decide_eq_true (List.all_eq_true.mp hall c hmem)

/-! ### Strings -/

/-- The letters that may follow a backslash and what they stand for. -/
def escapeLetters : List (Char × Char) :=
  [('"', '"'), ('\\', '\\'), ('/', '/'), ('b', '\x08'), ('f', '\x0c'), ('n', '\n'),
   ('r', '\r'), ('t', '\t')]

/-- A hexadecimal digit, in either case, and its value. -/
def HexDigit (c : Char) (v : Nat) : Prop :=
  v < 16 ∧ (c = Nat.digitChar v ∨ c = (Nat.digitChar v).toUpper)

/-- Four hexadecimal digits and their value. -/
inductive FourHex : List Char → Nat → Prop where
  | digits {a b c d : Char} {va vb vc vd : Nat} (hfirst : HexDigit a va) (hsecond : HexDigit b vb)
      (hthird : HexDigit c vc) (hfourth : HexDigit d vd) :
      FourHex [a, b, c, d] (va * 4096 + vb * 256 + vc * 16 + vd)

/-- The spellings of one character of a string. -/
inductive CharSpelling : List Char → Char → Prop where
  | plain {c : Char} (hquote : c ≠ '"') (hbackslash : c ≠ '\\') (hcontrol : 0x20 ≤ c.toNat) :
      CharSpelling [c] c
  | letter {letter c : Char} (hescape : (letter, c) ∈ escapeLetters) :
      CharSpelling ['\\', letter] c
  | unit {hex : List Char} {n : Nat} (hdigits : FourHex hex n)
      (hscalar : n < 0xD800 ∨ 0xDFFF < n) :
      CharSpelling ('\\' :: 'u' :: hex) (Char.ofNat n)
  /-- a character beyond sixteen bits, as two surrogates -/
  | pair {hex hex' : List Char} {high low : Nat} (hleading : FourHex hex high)
      (htrailing : FourHex hex' low) (hhighRange : 0xD800 ≤ high ∧ high ≤ 0xDBFF)
      (hlowRange : 0xDC00 ≤ low ∧ low ≤ 0xDFFF) :
      CharSpelling ('\\' :: 'u' :: (hex ++ '\\' :: 'u' :: hex'))
        (Char.ofNat ((high - 0xD800) * 1024 + (low - 0xDC00) + 0x10000))

/-- The spellings of the characters of a string, quotes aside. -/
inductive TextSpelling : List Char → List Char → Prop where
  | nil : TextSpelling [] []
  | cons {s rest : List Char} {c : Char} {text : List Char} (hchar : CharSpelling s c)
      (hchars : TextSpelling rest text) : TextSpelling (s ++ rest) (c :: text)

/-! ### Numbers -/

/-- Decimal digits, at least one. -/
def Digits (ds : List Char) : Prop := ds ≠ [] ∧ ∀ d ∈ ds, d.isDigit = true

/-- The part of a literal before the point: a zero that leads stands alone. -/
def WholeDigits (ds : List Char) : Prop := Digits ds ∧ (ds.head? = some '0' → ds = ['0'])

/-- The point and the digits after it, both or neither. -/
inductive FractionSpelling : List Char → List Char → Prop where
  | absent : FractionSpelling [] []
  | present {ds : List Char} (hdigits : Digits ds) : FractionSpelling ('.' :: ds) ds

/-- The sign of an exponent; the flag says that it is negative. -/
inductive SignSpelling : List Char → Bool → Prop where
  | none : SignSpelling [] false
  | plus : SignSpelling ['+'] false
  | minus : SignSpelling ['-'] true

/-- The exponent, if there is one. -/
inductive ExponentSpelling : List Char → Option (Bool × List Char) → Prop where
  | absent : ExponentSpelling [] none
  | present {mark : Char} {sign ds : List Char} {down : Bool} (hletter : mark = 'e' ∨ mark = 'E')
      (hsigned : SignSpelling sign down) (hdigits : Digits ds) :
      ExponentSpelling (mark :: (sign ++ ds)) (some (down, ds))

/-- The parts of a literal after its sign. -/
inductive UnsignedSpelling (negative : Bool) : List Char → Literal → Prop where
  | parts {whole fraction fractionDigits exponent : List Char}
      {exponentDigits : Option (Bool × List Char)} (hwholeDigits : WholeDigits whole)
      (hfractional : FractionSpelling fraction fractionDigits)
      (hexponential : ExponentSpelling exponent exponentDigits) :
      UnsignedSpelling negative (whole ++ (fraction ++ exponent))
        ⟨negative, whole, fractionDigits, exponentDigits⟩

/-- A number literal. -/
inductive LiteralSpelling : List Char → Literal → Prop where
  | unsigned {s : List Char} {l : Literal} (hliteral : UnsignedSpelling false s l) :
      LiteralSpelling s l
  | signed {s : List Char} {l : Literal} (hliteral : UnsignedSpelling true s l) :
      LiteralSpelling ('-' :: s) l

/-! ### Values -/

section Items

variable {α : Type}

/-- Items with a comma between any two and blanks around each. -/
inductive Separated (Item : List Char → α → Prop) : List Char → List α → Prop where
  | one {before s after : List Char} {x : α} (hleading : Blanks before) (hitem : Item s x)
      (htrailing : Blanks after) : Separated Item (before ++ s ++ after) [x]
  | more {before s after rest : List Char} {x : α} {xs : List α} (hleading : Blanks before)
      (hitem : Item s x) (htrailing : Blanks after) (hitems : Separated Item rest xs) :
      Separated Item (before ++ s ++ after ++ ',' :: rest) (x :: xs)

/-- Items between two brackets; where there are none, blanks may stand. -/
inductive Bracketed (opening closing : Char) (Item : List Char → α → Prop) :
    List Char → List α → Prop where
  | none {s : List Char} (hblanks : Blanks s) :
      Bracketed opening closing Item (opening :: (s ++ [closing])) []
  | some {s : List Char} {xs : List α} (hitems : Separated Item s xs) :
      Bracketed opening closing Item (opening :: (s ++ [closing])) xs

end Items

mutual

/-- The spellings of a value, without blanks around it. -/
inductive Spelling : List Char → Tree → Prop where
  | null : Spelling "null".toList .null
  | true : Spelling "true".toList (.bool true)
  | false : Spelling "false".toList (.bool false)
  | number {s : List Char} {l : Literal} (hliteral : LiteralSpelling s l) :
      Spelling s (.number l)
  | string {s text : List Char} (hchars : TextSpelling s text) :
      Spelling ('"' :: (s ++ ['"'])) (.string text)
  | list {s : List Char} {items : List Tree} (hbetween : Bracketed '[' ']' Spelling s items) :
      Spelling s (.list items)
  | object {s : List Char} {members : List (List Char × Tree)}
      (hbetween : Bracketed '\x7b' '\x7d' Member s members) : Spelling s (.object members)

/-- The spellings of a member of an object, from the quote of its key to the end
of its value. -/
inductive Member : List Char → List Char × Tree → Prop where
  | mk {s key before after value : List Char} {t : Tree} (hkeyChars : TextSpelling s key)
      (hleading : Blanks before) (htrailing : Blanks after) (hspelled : Spelling value t) :
      Member ('"' :: (s ++ '"' :: (before ++ ':' :: (after ++ value)))) (key, t)

end

/-- A whole text: a value with blanks around it and nothing else. -/
inductive Document : List Char → Tree → Prop where
  | mk {before s after : List Char} {t : Tree} (hleading : Blanks before) (hvalue : Spelling s t)
      (htrailing : Blanks after) : Document (before ++ s ++ after) t

end ClassifierBridge.Json
