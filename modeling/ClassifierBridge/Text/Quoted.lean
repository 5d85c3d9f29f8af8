import ClassifierBridge.Text.Unprintable

/-!
# `ClassifierBridge.Text.Quoted`: text inside an error message

Error messages quote a text that stood where something else was expected. The
quotation shows what was there: a quote and a backslash are escaped, the usual
control characters have names of one letter, and a character that does not show
by itself is given by its code point.
-/

set_option autoImplicit false

namespace ClassifierBridge.Text

/-- One character inside quotation marks. -/
def quoteChar (c : Char) : List Char :=
  match c with
  | '"' => ['\\', '"']
  | '\\' => ['\\', '\\']
  | '\n' => ['\\', 'n']
  | '\r' => ['\\', 'r']
  | '\t' => ['\\', 't']
  | '\x00' => ['\\', '0']
  | c =>
    if isUnprintable c then
      ['\\', 'u', '\x7b'] ++ Nat.toDigits 16 c.toNat ++ ['\x7d']
    else [c]

/-- A text in quotation marks. -/
def quoted (text : List Char) : List Char := '"' :: (text.flatMap quoteChar ++ ['"'])

end ClassifierBridge.Text
