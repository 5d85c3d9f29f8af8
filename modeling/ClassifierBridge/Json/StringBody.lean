import ClassifierBridge.Json.Fault

/-!
# `ClassifierBridge.Json.StringBody`: strings, read and written

`StringBody.read` reads the characters of a string up to the closing quote and
undoes its escapes; `StringBody.write` is the other direction and escapes no
more than JSON requires. A character outside the sixteen-bit range may be
written as two `\u` escapes, a surrogate pair; a surrogate without its partner
is refused.
-/

set_option autoImplicit false

namespace ClassifierBridge.Json.StringBody

/-- The value of a hexadecimal digit. -/
def hexValue? (c : Char) : Option Nat :=
  if '0' ≤ c ∧ c ≤ '9' then some (c.toNat - '0'.toNat)
  else if 'a' ≤ c ∧ c ≤ 'f' then some (c.toNat - 'a'.toNat + 10)
  else if 'A' ≤ c ∧ c ≤ 'F' then some (c.toNat - 'A'.toNat + 10)
  else none

/-- The value of four hexadecimal digits. -/
def fourHexValue? (a b c d : Char) : Option Nat := do
  let a ← hexValue? a
  let b ← hexValue? b
  let c ← hexValue? c
  let d ← hexValue? d
  return ((a * 16 + b) * 16 + c) * 16 + d

/-- Reads the four digits of a `\u` escape. Four bytes are taken before they are
looked at, so the fault lies behind them. -/
def readHex (s : List Char) : Except Fault (Nat × List Char) :=
  if Utf8.byteLength s < 4 then .error (Cause.endInString.here [])
  else
    match s with
    | a :: b :: c :: d :: rest =>
      match fourHexValue? a b c d with
      | some n => .ok (n, rest)
      | none => .error ⟨.invalidEscape, Utf8.byteLength s - 4⟩
    | _ => .error ⟨.invalidEscape, Utf8.byteLength s - 4⟩

/-- The first half of a character that takes two escapes. -/
def isLeadingSurrogate (n : Nat) : Bool := 0xD800 ≤ n && n ≤ 0xDBFF

/-- The second half of such a character. -/
def isTrailingSurrogate (n : Nat) : Bool := 0xDC00 ≤ n && n ≤ 0xDFFF

/-- The character of a surrogate pair. -/
def pairedChar (leading trailing : Nat) : Char :=
  Char.ofNat ((leading - 0xD800) * 1024 + (trailing - 0xDC00) + 0x10000)

/-- Reads the second half of a surrogate pair, which is an escape of its own. -/
def readTrailing (leading : Nat) (s : List Char) : Except Fault (Char × List Char) :=
  match s with
  | [] => .error (Cause.endInString.here s)
  | backslash :: afterBackslash =>
    if backslash ≠ '\\' then .error (Cause.endOfPairExpected.past s)
    else
      match afterBackslash with
      | [] => .error (Cause.endInString.here afterBackslash)
      | letter :: afterLetter =>
        if letter ≠ 'u' then .error (Cause.endOfPairExpected.past afterBackslash)
        else
          match readHex afterLetter with
          | .error fault => .error fault
          | .ok (trailing, rest) =>
            if isTrailingSurrogate trailing then .ok (pairedChar leading trailing, rest)
            else .error (Cause.loneSurrogate.here rest)

/-- Reads the character of a `\u` escape after the `u`. -/
def readUnicode (s : List Char) : Except Fault (Char × List Char) :=
  match readHex s with
  | .error fault => .error fault
  | .ok (n, rest) =>
    if isTrailingSurrogate n then .error (Cause.loneSurrogate.here rest)
    else if isLeadingSurrogate n then readTrailing n rest
    else .ok (Char.ofNat n, rest)

/-- The character that a backslash and one letter stand for. -/
def letterEscape? (letter : Char) : Option Char :=
  if letter = '"' ∨ letter = '\\' ∨ letter = '/' then some letter
  else if letter = 'b' then some '\x08'
  else if letter = 'f' then some '\x0c'
  else if letter = 'n' then some '\n'
  else if letter = 'r' then some '\r'
  else if letter = 't' then some '\t'
  else none

/-- Reads the character of an escape after the backslash. -/
def readEscape (s : List Char) : Except Fault (Char × List Char) :=
  match s with
  | [] => .error (Cause.endInString.here s)
  | letter :: rest =>
    if letter = 'u' then readUnicode rest
    else
      match letterEscape? letter with
      | some c => .ok (c, rest)
      | none => .error (Cause.invalidEscape.past s)

/-- Four digits are consumed. -/
theorem length_lt_of_readHex {s rest : List Char} {n : Nat} (h : readHex s = .ok (n, rest)) :
    rest.length < s.length := by
  unfold readHex at h
  split at h
  · cases h
  · split at h
    · split at h
      · cases h
        simp only [List.length_cons]
        omega
      · cases h
    · cases h

/-- The second escape is consumed. -/
theorem length_lt_of_readTrailing {leading : Nat} {s rest : List Char} {c : Char}
    (h : readTrailing leading s = .ok (c, rest)) : rest.length < s.length := by
  unfold readTrailing at h
  split at h
  · cases h
  · split at h
    · cases h
    · split at h
      · cases h
      · split at h
        · cases h
        · split at h
          · cases h
          · next hhex =>
              have hshorter := length_lt_of_readHex hhex
              split at h
              · simp only [Except.ok.injEq, Prod.mk.injEq] at h
                obtain ⟨-, rfl⟩ := h
                simp only [List.length_cons]
                omega
              · cases h

/-- One or two escapes are consumed. -/
theorem length_lt_of_readUnicode {s rest : List Char} {c : Char}
    (h : readUnicode s = .ok (c, rest)) : rest.length < s.length := by
  unfold readUnicode at h
  split at h
  · cases h
  · next hhex =>
      have hshorter := length_lt_of_readHex hhex
      split at h
      · cases h
      · split at h
        · exact Nat.lt_trans (length_lt_of_readTrailing h) hshorter
        · cases h
          exact hshorter

/-- An escape takes at least one character. -/
theorem length_lt_of_readEscape {s rest : List Char} {c : Char}
    (h : readEscape s = .ok (c, rest)) : rest.length < s.length := by
  unfold readEscape at h
  split at h
  · cases h
  · split at h
    · exact Nat.lt_succ_of_lt (length_lt_of_readUnicode h)
    · split at h
      · cases h
        exact Nat.lt_succ_self _
      · cases h

/-- Reads the characters up to the closing quote. -/
def read (s : List Char) : Except Fault (List Char × List Char) :=
  match s with
  | [] => .error (Cause.endInString.here s)
  | c :: rest =>
    if c = '"' then .ok ([], rest)
    else if c = '\\' then
      match _hescape : readEscape rest with
      | .error fault => .error fault
      | .ok (c, rest) => (read rest).map fun (text, rest) => (c :: text, rest)
    else if c < ' ' then .error (Cause.controlCharacter.past s)
    else (read rest).map fun (text, rest) => (c :: text, rest)
termination_by s.length
decreasing_by
  · have := length_lt_of_readEscape ‹_›
    simp only [List.length_cons]
    omega
  · simp only [List.length_cons]
    omega

/-- What is left after a string is shorter than what the string was read from. -/
theorem length_lt_of_read {s rest text : List Char} (h : read s = .ok (text, rest)) :
    rest.length < s.length := by
  fun_induction read s generalizing text rest with
  | case1 => cases h
  | case2 tail => cases h; simp only [List.length_cons]; omega
  | case3 => cases h
  | case4 tail c rest' hescape _ ih =>
      have hshorter := length_lt_of_readEscape hescape
      cases hr : read rest' with
      | error f => rw [hr] at h; cases h
      | ok p =>
          rw [hr] at h
          cases h
          have := ih hr
          simp only [List.length_cons]
          omega
  | case5 => cases h
  | case6 c tail _ _ _ ih =>
      cases hr : read tail with
      | error f => rw [hr] at h; cases h
      | ok p =>
          rw [hr] at h
          cases h
          have := ih hr
          simp only [List.length_cons]
          omega

/-- One character as it stands in a string. -/
def writeChar (c : Char) : List Char :=
  if c = '"' ∨ c = '\\' then ['\\', c]
  else if c = '\x08' then ['\\', 'b']
  else if c = '\x0c' then ['\\', 'f']
  else if c = '\n' then ['\\', 'n']
  else if c = '\r' then ['\\', 'r']
  else if c = '\t' then ['\\', 't']
  else if c < ' ' then
    ['\\', 'u', '0', '0', Nat.digitChar (c.toNat / 16), Nat.digitChar (c.toNat % 16)]
  else [c]

/-- A whole string, quotes included. -/
def write (text : List Char) : List Char := '"' :: (text.flatMap writeChar ++ ['"'])

end ClassifierBridge.Json.StringBody
