import ClassifierBridge.Json.Value
import ClassifierBridge.Settings.Basic

/-!
# `ClassifierBridge.Settings.Reader`: host forms read from JSON

A host form is an object whose members are among the six fields, each at most
once and in any order, or a list of the fields' values in a fixed order that may
end early. What is missing has its default. `HostForm.readField` reads the value
of one field and serves both spellings.

`Settings.ofJson` reads a whole text. A threshold that the flag announces and
that is not there is noticed before what follows the object.
-/

set_option autoImplicit false

namespace ClassifierBridge

open Json

/-- A field of the host form. -/
inductive Field where
  | locale
  | maxResults
  | thresholdIsSet
  | threshold
  | allow
  | deny
deriving DecidableEq, Repr

namespace Field

/-- The fields in the order of the list spelling. -/
def inOrder : List Field := [.locale, .maxResults, .thresholdIsSet, .threshold, .allow, .deny]

/-- The key of a field. -/
def key : Field → String
  | .locale => "displayNamesLocale"
  | .maxResults => "maxResults"
  | .thresholdIsSet => "isScoreThresholdSet"
  | .threshold => "scoreThreshold"
  | .allow => "classNameAllowList"
  | .deny => "classNameDenyList"

/-- The short key that the locale may have instead. -/
def localeAlias : String := "locale"

/-- The keys that are listed to a host that used an unknown one. -/
def knownKeys : List String := "displayNamesLocale" :: localeAlias :: (inOrder.tail.map key)

/-- The field that a key stands for. -/
def ofKey? (key : List Char) : Option Field :=
  if String.ofList key = localeAlias then some .locale
  else inOrder.find? fun field => decide (String.ofList key = field.key)

end Field

namespace HostForm

/-- Reads the value of a field into the form. -/
def readField (form : HostForm) (field : Field) (s : List Char) :
    Except Fault (HostForm × List Char) :=
  match field with
  | .locale => (readString s).map fun (text, rest) =>
      ({ form with locale := String.ofList text }, rest)
  | .maxResults => (readInt32 s).map fun (n, rest) => ({ form with maxResults := n }, rest)
  | .thresholdIsSet => (readBool s).map fun (b, rest) =>
      ({ form with thresholdIsSet := b }, rest)
  | .threshold => (readOptionalSingle s).map fun (x, rest) =>
      ({ form with threshold := x }, rest)
  | .allow => (readStringList s).map fun (names, rest) => ({ form with allow := names }, rest)
  | .deny => (readStringList s).map fun (names, rest) => ({ form with deny := names }, rest)

/-- The fault for a key that is refused. It is reported where the key and the
blanks after it end, or after the brace if the object closes there. -/
def keyRefused (cause : Cause) (rest : List Char) : Fault :=
  match skipBlank rest with
  | [] => cause.here []
  | c :: rest => if c = '\x7d' then cause.here rest else cause.here (c :: rest)

/-- Reads the members of an object up to its closing brace. The fields that have
not been given yet are `free`; each member takes one of them, which is why the
loop ends. -/
def readMembers (free : List Field) (first : Bool) (form : HostForm) (s : List Char) :
    Except Fault (HostForm × List Char) :=
  match nextMember first s with
  | .error fault => .error fault
  | .ok (.close rest) => .ok (form, rest)
  | .ok (.item s) =>
    match StringBody.read s with
    | .error fault => .error fault
    | .ok (key, rest) =>
      -- The key is judged before its colon and its value are read.
      match Field.ofKey? key with
      | none => .error (keyRefused (.unknownField key) rest)
      | some field =>
        if _hgiven : field ∈ free then
          match readColon rest with
          | .error fault => .error fault
          | .ok rest =>
            match form.readField field rest with
            | .error fault => .error fault
            | .ok (form, rest) => readMembers (free.erase field) false form rest
        else .error (keyRefused (.duplicateField field.key.toList) rest)
termination_by free.length
decreasing_by
  have := List.length_pos_of_mem ‹field ∈ free›
  rw [List.length_erase_of_mem ‹field ∈ free›]
  omega

/-- Reads the closing bracket after the last field of the list spelling. -/
def closeList (s : List Char) : Except Fault (List Char) :=
  match skipBlank s with
  | [] => .error (Cause.endInList.here [])
  | c :: rest =>
    if c = ']' then .ok rest
    else if c = ',' then
      -- A comma is taken before what follows it is refused.
      let rest := skipBlank rest
      if rest.head? = some ']' then .error (Cause.trailingComma.past rest)
      else .error (Cause.trailingCharacters.past rest)
    else .error (Cause.trailingCharacters.past (c :: rest))

/-- Reads the values of the given fields from a list, up to its closing bracket. -/
def readElements (fields : List Field) (first : Bool) (form : HostForm) (s : List Char) :
    Except Fault (HostForm × List Char) :=
  match fields with
  | [] => (closeList s).map fun rest => (form, rest)
  | field :: fields =>
    match nextElement first s with
    | .error fault => .error fault
    | .ok (.close rest) => .ok (form, rest)
    | .ok (.item s) =>
      match form.readField field s with
      | .error fault => .error fault
      | .ok (form, rest) => readElements fields false form rest

/-- Reads a host form in either spelling. -/
def read (s : List Char) : Except Fault (HostForm × List Char) :=
  match readHead s with
  | .error fault => .error fault
  | .ok (.openObject, rest) => readMembers Field.inOrder true {} rest
  | .ok (.openList, rest) => readElements Field.inOrder true {} rest
  | .ok (head, rest) => .error (mismatch .hostForm head rest)

end HostForm

/-- Nothing but blanks may follow a document. -/
def endOfText (rest : List Char) : Except Fault Unit :=
  match skipBlank rest with
  | [] => .ok ()
  | rest => .error (Cause.trailingCharacters.past rest)

/-- Why a text is no configuration. -/
inductive ConfigError where
  | unreadable (text : List Char) (fault : Fault)
  | thresholdMissing

/-- The message for the host. -/
def ConfigError.message : ConfigError → String
  | .unreadable text fault => String.ofList (fault.message Field.knownKeys text)
  | .thresholdMissing => "isScoreThresholdSet is true but scoreThreshold is missing"

/-- The host form that a text holds. -/
def HostForm.ofJson (text : String) : Except ConfigError HostForm :=
  match HostForm.read text.toList with
  | .error fault => .error (.unreadable text.toList fault)
  | .ok (form, rest) =>
    match endOfText rest with
    | .error fault => .error (.unreadable text.toList fault)
    | .ok () => .ok form

/-- The settings that a text holds. -/
def Settings.ofJson (text : String) : Except ConfigError Settings :=
  match HostForm.read text.toList with
  | .error fault => .error (.unreadable text.toList fault)
  | .ok (form, rest) =>
    -- What the object says about itself comes before what follows it.
    match form.settings? with
    | none => .error .thresholdMissing
    | some settings =>
      match endOfText rest with
      | .error fault => .error (.unreadable text.toList fault)
      | .ok () => .ok settings

end ClassifierBridge
