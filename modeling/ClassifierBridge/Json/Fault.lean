import ClassifierBridge.Decimal.Layout
import ClassifierBridge.Text.Quoted
import ClassifierBridge.Text.Utf8

/-!
# `ClassifierBridge.Json.Fault`: why and where reading stopped

Reading a JSON text stops at the first fault. A `Fault` is a `Cause` together
with the number of bytes that are unread at the place it is reported for, so
that a reader can say where it stopped without knowing what came before. Only
`Fault.message`, which is given the whole text, turns this into a line and a
column; columns count bytes.
-/

set_option autoImplicit false

namespace ClassifierBridge.Json

/-- A number as the reader hands it on. An integer literal that fits 64 bits
keeps its exact value; every other literal becomes a 64-bit binary number. -/
inductive Number where
  | natural (n : Nat)
  /-- the integer `-n` -/
  | negative (n : Nat)
  | real (x : Double)

/-- The start of a value: a whole scalar, or the bracket that opens a list or an
object. -/
inductive Head where
  | null
  | bool (b : Bool)
  | number (n : Number)
  | string (text : List Char)
  | openList
  | openObject

/-- The values that a place in the text can ask for. -/
inductive Expected where
  | hostForm
  | string
  | int32
  | bool
  | single
  | list
deriving DecidableEq, Repr

/-- Why a text could not be read. -/
inductive Cause where
  | endInValue
  | endInList
  | endInObject
  | endInString
  | valueExpected
  | wordExpected
  | colonExpected
  | commaOrBracketExpected
  | commaOrBraceExpected
  | keyNotString
  | trailingComma
  | trailingCharacters
  | controlCharacter
  | invalidEscape
  | loneSurrogate
  | endOfPairExpected
  | invalidNumber
  | numberOutOfRange
  | wrongType (found : Head) (expected : Expected)
  | integerOutOfRange (n : Int)
  | unknownField (key : List Char)
  | duplicateField (name : List Char)

/-- Why and where reading stopped. -/
structure Fault where
  cause : Cause
  /-- the bytes of the text that come after the reported place -/
  unread : Nat

/-- A fault at the front of the unread text. -/
def Cause.here (cause : Cause) (rest : List Char) : Fault := ⟨cause, Utf8.byteLength rest⟩

/-- A fault at the byte that comes next, which the reported place includes; at
the end of the text there is none to include. -/
def Cause.past (cause : Cause) (rest : List Char) : Fault := ⟨cause, Utf8.byteLength rest - 1⟩

/-- Decimal digits of an integer, with a sign if it is negative. -/
def integerText (n : Int) : List Char :=
  (if n < 0 then ['-'] else []) ++ Nat.toDigits 10 n.natAbs

/-- How a value that does not fit is called. -/
def Head.describe : Head → List Char
  | .null => "null".toList
  | .bool b => "boolean `".toList ++ (toString b).toList ++ "`".toList
  | .number (.natural n) => "integer `".toList ++ Nat.toDigits 10 n ++ "`".toList
  | .number (.negative n) => "integer `-".toList ++ Nat.toDigits 10 n ++ "`".toList
  | .number (.real x) =>
    "floating point `".toList ++ NumberLayout.message.writeFinite x ++ "`".toList
  | .string text => "string ".toList ++ Text.quoted text
  | .openList => "sequence".toList
  | .openObject => "map".toList

/-- How the value that a place asks for is called. -/
def Expected.describe : Expected → String
  | .hostForm => "struct HostOptions"
  | .string => "a string"
  | .int32 => "i32"
  | .bool => "a boolean"
  | .single => "f32"
  | .list => "a sequence"

/-- The wording of a cause. `fields` are the field names that an object may
have, in the order in which they are listed to the host. -/
def Cause.describe (fields : List String) : Cause → List Char
  | .endInValue => "EOF while parsing a value".toList
  | .endInList => "EOF while parsing a list".toList
  | .endInObject => "EOF while parsing an object".toList
  | .endInString => "EOF while parsing a string".toList
  | .valueExpected => "expected value".toList
  | .wordExpected => "expected ident".toList
  | .colonExpected => "expected `:`".toList
  | .commaOrBracketExpected => "expected `,` or `]`".toList
  | .commaOrBraceExpected => "expected `,` or `\x7d`".toList
  | .keyNotString => "key must be a string".toList
  | .trailingComma => "trailing comma".toList
  | .trailingCharacters => "trailing characters".toList
  | .controlCharacter =>
    "control character (\\u0000-\\u001F) found while parsing a string".toList
  | .invalidEscape => "invalid escape".toList
  | .loneSurrogate => "lone leading surrogate in hex escape".toList
  | .endOfPairExpected => "unexpected end of hex escape".toList
  | .invalidNumber => "invalid number".toList
  | .numberOutOfRange => "number out of range".toList
  | .wrongType found expected =>
    "invalid type: ".toList ++ found.describe ++ ", expected ".toList
      ++ expected.describe.toList
  | .integerOutOfRange n =>
    "invalid value: integer `".toList ++ integerText n ++ "`, expected ".toList
      ++ Expected.int32.describe.toList
  | .unknownField key =>
    "unknown field `".toList ++ key ++ "`, expected one of ".toList
      ++ (", ".intercalate (fields.map fun name => "`" ++ name ++ "`")).toList
  | .duplicateField name => "duplicate field `".toList ++ name ++ "`".toList

/-- The line and column of the place after the first `bytes` bytes: lines count
from one, columns count the bytes since the line began. -/
def place (text : List Char) (bytes : Nat) (line : Nat) (column : Nat) : Nat × Nat :=
  match text with
  | [] => (line, column)
  | c :: text =>
    if c.utf8Size ≤ bytes then
      if c = '\n' then place text (bytes - 1) (line + 1) 0
      else place text (bytes - c.utf8Size) line (column + c.utf8Size)
    -- The place may lie inside a character; its first bytes count all the same.
    else (line, column + bytes)

/-- The message for a fault in `text`. -/
def Fault.message (fields : List String) (text : List Char) (fault : Fault) : List Char :=
  let (line, column) := place text (Utf8.byteLength text - fault.unread) 1 0
  fault.cause.describe fields ++ " at line ".toList ++ Nat.toDigits 10 line
    ++ " column ".toList ++ Nat.toDigits 10 column

end ClassifierBridge.Json
