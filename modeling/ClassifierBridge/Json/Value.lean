import ClassifierBridge.Json.Number
import ClassifierBridge.Json.StringBody

/-!
# `ClassifierBridge.Json.Value`: reading values of a known type

A reader takes the unread text and returns a value with what is left, or the
first fault. `readHead` reads whatever value comes next as far as its type can
be told, the whole of a scalar or the bracket of a list or an object; the typed
readers look at the head and refuse the wrong ones. So a value of the wrong type
is refused by its type only if it is well formed itself.

`nextElement` and `nextMember` find the items of a list and of an object; the
readers of the items are their callers' choice.
-/

set_option autoImplicit false

namespace ClassifierBridge.Json

/-- The characters that may stand between any two tokens. -/
def isBlank (c : Char) : Bool := c == ' ' || c == '\t' || c == '\n' || c == '\r'

/-- Drops the blanks at the front. -/
def skipBlank (s : List Char) : List Char := s.dropWhile isBlank

/-- Skipping adds nothing. -/
theorem length_skipBlank_le (s : List Char) : (skipBlank s).length ≤ s.length :=
  (List.dropWhile_suffix isBlank).length_le

/-- Reads the letters of a word. -/
def readWord (word : List Char) (s : List Char) : Except Fault (List Char) :=
  match word, s with
  | [], s => .ok s
  | _ :: _, [] => .error (Cause.endInValue.here [])
  | letter :: word, c :: rest =>
    if c = letter then readWord word rest else .error (Cause.wordExpected.past s)

/-- Reads the head of the value that comes next. -/
def readHead (s : List Char) : Except Fault (Head × List Char) :=
  match skipBlank s with
  | [] => .error (Cause.endInValue.here [])
  | c :: rest =>
    if c = '"' then (StringBody.read rest).map fun (text, rest) => (.string text, rest)
    else if c = '[' then .ok (.openList, rest)
    else if c = '\x7b' then .ok (.openObject, rest)
    else if c = 'n' then (readWord "ull".toList rest).map fun rest => (.null, rest)
    else if c = 't' then (readWord "rue".toList rest).map fun rest => (.bool true, rest)
    else if c = 'f' then (readWord "alse".toList rest).map fun rest => (.bool false, rest)
    else if c = '-' then (Literal.read true rest).map fun (n, rest) => (.number n, rest)
    else if c.isDigit then (Literal.read false (c :: rest)).map fun (n, rest) => (.number n, rest)
    else .error (Cause.valueExpected.past (c :: rest))

/-- The fault for a head of the wrong type, `rest` being what follows the head.
A scalar has been read by then; a list or an object is refused at its bracket. -/
def mismatch (expected : Expected) (head : Head) (rest : List Char) : Fault :=
  let bracket := match head with
    | .openList | .openObject => 1
    | _ => 0
  ⟨.wrongType head expected, Utf8.byteLength rest + bracket⟩

/-- Reads a string. -/
def readString (s : List Char) : Except Fault (List Char × List Char) :=
  match readHead s with
  | .error fault => .error fault
  | .ok (.string text, rest) => .ok (text, rest)
  | .ok (head, rest) => .error (mismatch .string head rest)

/-- Reads a truth value. -/
def readBool (s : List Char) : Except Fault (Bool × List Char) :=
  match readHead s with
  | .error fault => .error fault
  | .ok (.bool b, rest) => .ok (b, rest)
  | .ok (head, rest) => .error (mismatch .bool head rest)

/-- A 32-bit integer, if `n` is one. -/
def int32? (n : Int) : Option Int32 :=
  if -2147483648 ≤ n ∧ n ≤ 2147483647 then some (Int32.ofInt n) else none

/-- Reads a 32-bit integer. A literal with a fraction or an exponent has the
wrong type, and so has one that does not fit 64 bits. -/
def readInt32 (s : List Char) : Except Fault (Int32 × List Char) :=
  let fit (n : Int) (rest : List Char) : Except Fault (Int32 × List Char) :=
    match int32? n with
    | some i => .ok (i, rest)
    | none => .error (Cause.here (.integerOutOfRange n) rest)
  match readHead s with
  | .error fault => .error fault
  | .ok (.number (.natural n), rest) => fit n rest
  | .ok (.number (.negative n), rest) => fit (-(n : Int)) rest
  | .ok (head, rest) => .error (mismatch .int32 head rest)

/-- The 32-bit binary number nearest to a number that has been read. A number
past the largest finite one becomes infinite. -/
def Number.toSingle : Number → Single
  | .natural n => Binary.ofInt n
  | .negative n => Binary.ofInt (-(n : Int))
  | .real x => x.convert

/-- Reads a 32-bit binary number or a `null`. -/
def readOptionalSingle (s : List Char) : Except Fault (Option Single × List Char) :=
  match readHead s with
  | .error fault => .error fault
  | .ok (.null, rest) => .ok (none, rest)
  | .ok (.number n, rest) => .ok (some n.toSingle, rest)
  | .ok (head, rest) => .error (mismatch .single head rest)

/-- What comes next in a list or an object: an item, at its first character, or
the end, after the closing bracket. -/
inductive Next where
  | item (s : List Char)
  | close (rest : List Char)

/-- Finds the next element of a list. `first` holds right after the opening
bracket, where no comma is due. -/
def nextElement (first : Bool) (s : List Char) : Except Fault Next :=
  match skipBlank s with
  | [] => .error (Cause.endInList.here [])
  | c :: rest =>
    if c = ']' then .ok (.close rest)
    -- The reader of the element says what is wrong with it, a comma included.
    else if first then .ok (.item (c :: rest))
    else if c ≠ ',' then .error (Cause.commaOrBracketExpected.past (c :: rest))
    else
      -- After a comma an element is due, and the text ends inside a value.
      match skipBlank rest with
      | [] => .error (Cause.endInValue.here [])
      | c :: rest =>
        if c = ']' then .error (Cause.trailingComma.past (c :: rest))
        else .ok (.item (c :: rest))

/-- The fault for an object key that does not start with a quote. -/
def keyFault (s : List Char) : Fault := Cause.keyNotString.past s

/-- Finds the next member of an object, whose key has to be a string. The item
starts after the quote. -/
def nextMember (first : Bool) (s : List Char) : Except Fault Next :=
  match skipBlank s with
  | [] => .error (Cause.endInObject.here [])
  | c :: rest =>
    if c = '\x7d' then .ok (.close rest)
    else if first then
      if c = '"' then .ok (.item rest) else .error (keyFault (c :: rest))
    else if c ≠ ',' then .error (Cause.commaOrBraceExpected.past (c :: rest))
    else
      match skipBlank rest with
      | [] => .error (Cause.endInValue.here [])
      | c :: rest =>
        if c = '"' then .ok (.item rest)
        else if c = '\x7d' then .error (Cause.trailingComma.past (c :: rest))
        else .error (keyFault (c :: rest))

/-- Reads the colon between a key and its value. -/
def readColon (s : List Char) : Except Fault (List Char) :=
  match skipBlank s with
  | [] => .error (Cause.endInObject.here [])
  | c :: rest =>
    if c = ':' then .ok rest else .error (Cause.colonExpected.past (c :: rest))

/-! ### What is left is shorter

The loops over lists and objects end because each item takes at least one
character. -/

/-- A mapped result comes of a result. -/
theorem exists_of_map_eq_ok {α β : Type} {f : α → β} {e : Except Fault α} {y : β}
    (h : e.map f = .ok y) : ∃ x, e = .ok x ∧ f x = y := by
  cases e with
  | error fault => cases h
  | ok x => exact ⟨x, rfl, Except.ok.inj h⟩

/-- A string is read only where a quote comes next. -/
theorem quote_of_readHead_eq_string {s text rest : List Char}
    (h : readHead s = .ok (.string text, rest)) :
    ∃ tail, skipBlank s = '"' :: tail ∧ StringBody.read tail = .ok (text, rest) := by
  unfold readHead at h
  cases hblank : skipBlank s with
  | nil => rw [hblank] at h; cases h
  | cons c tail =>
      rw [hblank] at h
      simp only at h
      split at h
      · next hquote =>
          subst hquote
          obtain ⟨p, hread, hsame⟩ := exists_of_map_eq_ok h
          cases hsame
          exact ⟨tail, rfl, hread⟩
      · repeat' split at h
        all_goals first
          | cases h
          | (obtain ⟨_, _, hsame⟩ := exists_of_map_eq_ok h; cases hsame)

/-- The quotes are consumed at least. -/
theorem length_lt_of_readString {s rest text : List Char}
    (h : readString s = .ok (text, rest)) : rest.length < s.length := by
  have hblank := length_skipBlank_le s
  unfold readString at h
  split at h
  · cases h
  · next hhead =>
      cases h
      obtain ⟨tail, hquote, hread⟩ := quote_of_readHead_eq_string hhead
      have := StringBody.length_lt_of_read hread
      rw [hquote, List.length_cons] at hblank
      omega
  · cases h

/-- An item begins behind what separates it from the one before. -/
theorem length_le_of_nextElement {first : Bool} {s item : List Char}
    (h : nextElement first s = .ok (.item item)) : item.length ≤ s.length := by
  have hblank := length_skipBlank_le s
  unfold nextElement at h
  split at h
  · cases h
  · next c tail hstart =>
      rw [hstart, List.length_cons] at hblank
      split at h
      · cases h
      · split at h
        · cases h
          exact hblank
        · split at h
          · cases h
          · have hafter := length_skipBlank_le tail
            split at h
            · cases h
            · next hstart =>
                rw [hstart, List.length_cons] at hafter
                split at h
                · cases h
                · cases h
                  simp only [List.length_cons]
                  omega

/-- Reads the strings of a list up to its closing bracket. -/
def readStrings (first : Bool) (s : List Char) : Except Fault (List String × List Char) :=
  match _hnext : nextElement first s with
  | .error fault => .error fault
  | .ok (.close rest) => .ok ([], rest)
  | .ok (.item item) =>
    match _hread : readString item with
    | .error fault => .error fault
    | .ok (text, rest) =>
      (readStrings false rest).map fun (texts, rest) => (String.ofList text :: texts, rest)
termination_by s.length
decreasing_by
  have := length_le_of_nextElement ‹_›
  have := length_lt_of_readString ‹_›
  omega

/-- Reads a list of strings. -/
def readStringList (s : List Char) : Except Fault (List String × List Char) :=
  match readHead s with
  | .error fault => .error fault
  | .ok (.openList, rest) => readStrings true rest
  | .ok (head, rest) => .error (mismatch .list head rest)

end ClassifierBridge.Json
