import ClassifierBridge.Json.StringBody
import ClassifierBridge.Text.Alphanumeric

/-!
# `ClassifierBridge.Log.Pattern`: the form of a pattern

A log filter may compare the value of a field with a regular expression. Only
spans have values to compare, and the bridge has no spans, so no pattern is ever
matched here. But a filter leaves out a directive whose pattern is malformed,
and `isPattern` tells which patterns those are.

A pattern is read character by character. `Place` says where the next character
stands, and `Progress` keeps beside it what is still open. Whatever needs tables
of characters is malformed: classes by name such as `\d`, word boundaries, and
any character where case is ignored.
-/

set_option autoImplicit false

namespace ClassifierBridge.Pattern

open Text

/-- What a character that stands for itself is to a pattern. -/
inductive Role where
  /-- a part of the pattern -/
  | part
  /-- a member of a class -/
  | member
  /-- the upper end of a range in a class -/
  | upper (lower : Char)

/-- Where the next character stands. -/
inductive Place where
  /-- outside of classes; a repetition needs something before it -/
  | outside (repeatable : Bool)
  /-- after a backslash -/
  | escape (role : Role)
  /-- in a code point, with `missing` digits still to come -/
  | codePoint (role : Role) (missing value : Nat)
  /-- after an opening parenthesis -/
  | groupStart
  /-- after `(?` -/
  | groupKind
  /-- after `(?P` -/
  | nameStart
  /-- in the name of a group -/
  | name (read : List Char)
  /-- among the flags of a group, the last of those read first -/
  | flags (read : List Char)
  /-- at the start of a class, where `^`, `-` and `]` are special -/
  | classStart (negated hyphen : Bool)
  /-- in a class, where no range can begin with what was read -/
  | members
  /-- in a class, behind a character that a range can begin with -/
  | member (c : Char)
  /-- in a class, behind one half of an operator such as `&&` -/
  | half (c : Char)
  /-- in a class, behind a character and a hyphen -/
  | hyphen (lower : Char)

/-- What is known of a pattern that has been read in part. -/
structure Progress where
  place : Place := .outside false
  /-- the open groups, the innermost first: whether case is ignored outside of each -/
  groups : List Bool := []
  /-- the number of open classes -/
  classes : Nat := 0
  /-- the names of groups so far -/
  names : List (List Char) := []
  caseless : Bool := false

namespace Progress

/-- Goes on at another place. -/
def goOn (p : Progress) (place : Place) : Option Progress := some { p with place }

/-- Opens a group, in which case counts as it does outside. -/
def openGroup (p : Progress) : Progress :=
  { p with place := .outside false, groups := p.caseless :: p.groups }

/-- Closes the innermost group. -/
def closeGroup (p : Progress) : Option Progress :=
  match p.groups with
  | [] => none
  | caseless :: groups => some { p with place := .outside true, groups, caseless }

/-- Opens a class, inside another one or not. -/
def openClass (p : Progress) : Option Progress :=
  if p.caseless then none
  else some { p with place := .classStart false false, classes := p.classes + 1 }

/-- Closes the innermost class. -/
def closeClass (p : Progress) : Option Progress :=
  let place := if p.classes ≤ 1 then .outside true else .members
  some { p with place, classes := p.classes - 1 }

/-- Reads a character that stands for itself. -/
def literal (p : Progress) (role : Role) (c : Char) : Option Progress :=
  match role with
  | .part => if p.caseless then none else p.goOn (.outside true)
  | .member => p.goOn (.member c)
  | .upper lower => if lower ≤ c then p.goOn .members else none

/-- Reads a character outside of classes. -/
def outside (p : Progress) (repeatable : Bool) (c : Char) : Option Progress :=
  match c with
  | '\\' => p.goOn (.escape .part)
  | '(' => p.goOn .groupStart
  | ')' => p.closeGroup
  | '[' => p.openClass
  | '|' => p.goOn (.outside false)
  | '*' | '+' | '?' => if repeatable then p.goOn (.outside true) else none
  | '.' | '^' | '$' => p.goOn (.outside true)
  -- A count would end with a brace, which ends the whole pattern.
  | '\x7b' => none
  | c => p.literal .part c

/-- Reads a character inside a class. -/
def inside (p : Progress) (c : Char) : Option Progress :=
  match c with
  | '\\' => p.goOn (.escape .member)
  | '[' => p.openClass
  | ']' => p.closeClass
  | '-' => p.goOn .members
  | '&' | '~' => p.goOn (.half c)
  | c => p.literal .member c

/-- Reads the first characters of a class. -/
def classStart (p : Progress) (negated hyphen : Bool) (c : Char) : Option Progress :=
  if c = '^' ∧ !negated ∧ !hyphen then p.goOn (.classStart true false)
  else if c = '-' then p.goOn (.classStart negated true)
  else if c = ']' ∧ !hyphen then p.goOn .members
  else p.inside c

/-- Reads a character behind one that a range can begin with. -/
def behindMember (p : Progress) (lower c : Char) : Option Progress :=
  if c = '-' then p.goOn (.hyphen lower) else p.inside c

/-- Reads the upper end of a range, if there is one. -/
def behindHyphen (p : Progress) (lower c : Char) : Option Progress :=
  match c with
  | ']' => p.closeClass
  -- Two hyphens are an operator.
  | '-' => p.goOn .members
  | '\\' => p.goOn (.escape (.upper lower))
  | c => p.literal (.upper lower) c

/-- Whether a character stands for itself behind a backslash. -/
def isEscapable (c : Char) : Bool := c.toNat < 128 && !c.isAlphanum && c != '<' && c != '>'

/-- Reads what follows a backslash. -/
def escape (p : Progress) (role : Role) (c : Char) : Option Progress :=
  match c, role with
  | 'x', _ => p.goOn (.codePoint role 2 0)
  | 'u', _ => p.goOn (.codePoint role 4 0)
  | 'U', _ => p.goOn (.codePoint role 8 0)
  | 'a', _ => p.literal role '\x07'
  | 't', _ => p.literal role '\t'
  | 'n', _ => p.literal role '\n'
  | 'v', _ => p.literal role '\x0b'
  | 'f', _ => p.literal role '\x0c'
  | 'r', _ => p.literal role '\r'
  -- The ends of the text.
  | 'A', .part | 'z', .part => p.goOn (.outside true)
  | c, _ => if isEscapable c then p.literal role c else none

/-- Reads a digit of a code point. -/
def codePoint (p : Progress) (role : Role) (missing value : Nat) (c : Char) : Option Progress := do
  let digit ← Json.StringBody.hexValue? c
  let value := value * 16 + digit
  if missing > 1 then p.goOn (.codePoint role (missing - 1) value)
  else if value.isValidChar then p.literal role (Char.ofNat value)
  else none

/-- Whether flags, the last first, make case ignored, where they say. -/
def caselessBy (flags : List Char) (caseless : Bool) : Bool :=
  if 'i' ∈ flags then !(flags.dropWhile (· != 'i')).contains '-' else caseless

/-- Reads a flag or the end of the flags. Each is given at most once, and a hyphen
before some of them takes those back. -/
def flags (p : Progress) (read : List Char) (c : Char) : Option Progress :=
  let caseless := caselessBy read p.caseless
  match c with
  | ':' => if read.head? = some '-' then none else some { p.openGroup with caseless }
  | ')' =>
    if read.isEmpty ∨ read.head? = some '-' then none
    else some { p with place := .outside false, caseless }
  | c => if c ∈ "-imsUuRx".toList ∧ c ∉ read then p.goOn (.flags (c :: read)) else none

/-- Whether a character can follow others in the name of a group. -/
def inName (read : List Char) (c : Char) : Bool :=
  if read.isEmpty then c = '_' || isAlphabetic c
  else "_.[]".toList.contains c || isAlphanumeric c

/-- Reads a character of a group's name or its end. No two groups share a name. -/
def name (p : Progress) (read : List Char) (c : Char) : Option Progress :=
  if c = '>' then
    if read.isEmpty ∨ read ∈ p.names then none
    else some { p.openGroup with names := read :: p.names }
  else if inName read c then p.goOn (.name (read ++ [c]))
  else none

/-- Reads what follows an opening parenthesis. -/
def groupStart (p : Progress) (c : Char) : Option Progress :=
  if c = '?' then p.goOn .groupKind else p.openGroup.outside false c

/-- Reads what follows `(?`. -/
def groupKind (p : Progress) (c : Char) : Option Progress :=
  match c with
  | 'P' => p.goOn .nameStart
  | '<' => p.goOn (.name [])
  | c => p.flags [] c

/-- Reads a character. -/
def step (p : Progress) (c : Char) : Option Progress :=
  match p.place with
  | .outside repeatable => p.outside repeatable c
  | .escape role => p.escape role c
  | .codePoint role missing value => p.codePoint role missing value c
  | .groupStart => p.groupStart c
  | .groupKind => p.groupKind c
  | .nameStart => if c = '<' then p.goOn (.name []) else none
  | .name read => p.name read c
  | .flags read => p.flags read c
  | .classStart negated hyphen => p.classStart negated hyphen c
  | .members => p.inside c
  | .member lower => p.behindMember lower c
  | .half lower => if c = lower then p.goOn .members else p.behindMember lower c
  | .hyphen lower => p.behindHyphen lower c

/-- Whether a pattern can end here: outside of groups and classes. -/
def isDone (p : Progress) : Bool :=
  match p.place with
  | .outside _ => p.groups.isEmpty
  | _ => false

end Progress

/-- Whether a text has the form of a pattern. -/
def isPattern (text : List Char) : Bool :=
  match text.foldlM Progress.step {} with
  | some p => p.isDone
  | none => false

end ClassifierBridge.Pattern
