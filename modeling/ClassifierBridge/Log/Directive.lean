import ClassifierBridge.Log.Event
import ClassifierBridge.Log.Pattern
import ClassifierBridge.Text.Blank

/-!
# `ClassifierBridge.Log.Directive`: one rule of a log filter

A directive lets the events of a target through, up to a level. It is written

    target[span{field=value}]=level

where each part may be missing: a level may stand alone, and without a level all
events of the target pass. The span and the value narrow a directive to what
happens inside of a span. The bridge has no spans, so such a directive concerns
no event of it; but it is a directive all the same.

The parts of a directive are found without the blanks around it, but they are
cut, by their place in bytes, out of the text with the blanks. So blanks in
front of a directive shift its parts, and those behind it belong to its last
part.
-/

set_option autoImplicit false

namespace ClassifierBridge

open Text

/-- What a directive asks of a field. -/
structure FieldCondition where
  name : String
  /-- the value or the pattern that the field has to match, if any will not do -/
  value : Option String
deriving DecidableEq, Repr

/-- A rule about which events are recorded. -/
structure Directive where
  /-- how the targets begin that it is about -/
  target : String := ""
  /-- the span that an event has to be in -/
  span : Option String := none
  /-- the field that an event has to have -/
  field : Option FieldCondition := none
  /-- the rank of the least urgent level that it lets through, zero for nothing -/
  most : Nat := Level.trace.rank
deriving DecidableEq, Repr

namespace Directive

/-- Whether a directive is about an event. -/
def concerns (d : Directive) (e : Event) : Bool :=
  d.target.toList.isPrefixOf e.source.target.toList && d.span.isNone
    && d.field.all fun field => field.value.isNone && e.fieldNames.contains field.name

/-- Whether a directive is narrower than another: it is about longer targets, or
about as long ones and about events with a field. Two fields are told apart by
their names, so that one of them always decides. -/
def isNarrower (d other : Directive) : Bool :=
  if d.target.length ≠ other.target.length then other.target.length < d.target.length
  else
    match d.field, other.field with
    | some field, some otherField => otherField.name < field.name
    | some _, none => true
    | none, _ => false

/-! ## Levels -/

/-- The number that decimal digits write. -/
def number (digits : List Char) : Nat :=
  digits.foldl (fun n d => 10 * n + (d.toNat - '0'.toNat)) 0

/-- The rank of a level that is given by its number. -/
def numberedRank? (text : List Char) : Option Nat :=
  let digits := if text.head? = some '+' then text.tail else text
  if digits.isEmpty || !digits.all Char.isDigit then none
  else if number digits ≤ Level.trace.rank then some (number digits)
  else none

/-- The rank of a level that is given by its name, in either case. -/
def namedRank? (text : List Char) : Option Nat :=
  match String.ofList (text.map Char.toLower) with
  | "off" => some 0
  | "error" => some Level.error.rank
  | "warn" => some Level.warn.rank
  | "info" => some Level.info.rank
  | "debug" => some Level.debug.rank
  | "trace" => some Level.trace.rank
  | _ => none

/-- The rank that a text stands for. -/
def rank? (text : List Char) : Option Nat := (numberedRank? text).or (namedRank? text)

/-! ## Values -/

/-- Whether a text is the exponent of a number, or nothing. -/
def isExponent : List Char → Bool
  | [] => true
  | e :: rest =>
    let digits := if rest.head? = some '+' ∨ rest.head? = some '-' then rest.tail else rest
    (e == 'e' || e == 'E') && !digits.isEmpty && digits.all Char.isDigit

/-- Whether a text is a number in decimal digits, with a digit before or after the
point. -/
def isDecimal (text : List Char) : Bool :=
  let whole := text.takeWhile Char.isDigit
  match text.dropWhile Char.isDigit with
  | '.' :: rest =>
    !(whole ++ rest.takeWhile Char.isDigit).isEmpty && isExponent (rest.dropWhile Char.isDigit)
  | rest => !whole.isEmpty && isExponent rest

/-- Whether a text can stand as the value of a field. Most values have the form of
a pattern anyway; a number behind a plus sign has not, and is a value as well. -/
def isValue (text : List Char) : Bool :=
  Pattern.isPattern text ||
    match text with
    | '+' :: number =>
      isDecimal number
        || ["inf", "infinity", "nan"].contains (String.ofList (number.map Char.toLower))
    | _ => false

/-! ## Reading -/

/-- The end of a text, from a byte on. -/
def behind : Nat → List Char → List Char
  | _, [] => []
  | start, c :: rest => if start = 0 then c :: rest else behind (start - c.utf8Size) rest

/-- The beginning of a text, up to a byte. -/
def before : Nat → List Char → List Char
  | _, [] => []
  | stop, c :: rest => if stop = 0 then [] else c :: before (stop - c.utf8Size) rest

/-- What a text holds between two bytes. -/
def between (text : List Char) (start stop : Nat) : List Char :=
  before (stop - start) (behind start text)

/-- Reads what a directive asks of a field. -/
def field? (text : List Char) : Option FieldCondition :=
  let name := text.takeWhile (· != '=')
  match text.drop name.length with
  | [] => if text.isEmpty then none else some ⟨String.ofList name, none⟩
  | _ :: rest =>
    let value := rest.takeWhile (· != '=')
    if isValue value then some ⟨String.ofList name, some (String.ofList value)⟩ else none

/-- Reads the end of a directive, which is `rest` and begins at byte `start` of the
text `given`: an equals sign and a level, or nothing. -/
def ending? (d : Directive) (given rest : List Char) (start : Nat) : Option Directive :=
  match rest with
  | [] => some d
  | '=' :: _ =>
    let level := behind (start + 1) given
    if level.isEmpty then some d else (rank? level).map fun most => { d with most }
  | _ => none

/-- Reads a directive from behind its opening bracket, where `rest` begins at byte
`start` of the text `given`. -/
def bracketed? (target : String) (given rest : List Char) (start : Nat) : Option Directive :=
  let span := rest.takeWhile fun c => c != ']' && c != '\x7b'
  let stop := start + Utf8.byteLength span
  let name := String.ofList (between given start stop)
  match rest.drop span.length with
  | ']' :: rest => ending? { target, span := some name } given rest (stop + 1)
  | '\x7b' :: rest =>
    -- In front of a field, the span may be left open.
    let span := if name.isEmpty then none else some name
    let shown := rest.takeWhile (· != '\x7d')
    let fieldStop := stop + 1 + Utf8.byteLength shown
    match rest.drop shown.length, field? (between given (stop + 1) fieldStop) with
    | '\x7d' :: ']' :: rest, some field =>
      ending? { target, span, field := some field } given rest (fieldStop + 2)
    | _, _ => none
  | _ => none

/-- What a directive can begin with, apart from a bracket. -/
def isInitial (c : Char) : Bool := c == '-' || c == ':' || c == '_' || isAlphanumeric c

/-- Reads a directive. -/
def ofText? (given : List Char) : Option Directive :=
  let text := trim given
  let head := text.takeWhile fun c => c != '=' && c != '['
  let stop := Utf8.byteLength head
  let target := String.ofList (before stop given)
  if !text.head?.any (fun c => c == '[' || isInitial c) then none
  else
    match text.drop head.length with
    -- A text that is not the name of a level is a target.
    | [] => some ((rank? given).elim { target := String.ofList given } fun most => { most })
    | '[' :: rest => bracketed? target given rest (stop + 1)
    | rest => ending? { target } given rest stop

end Directive

end ClassifierBridge
