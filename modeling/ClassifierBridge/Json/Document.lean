import ClassifierBridge.Json.StringBody

/-!
# `ClassifierBridge.Json.Document`: writing values

Documents are written without blanks, members in the order given. A binary
number that is not finite has no spelling in JSON and is written as `null`.
-/

set_option autoImplicit false

namespace ClassifierBridge.Json

/-- Either of the two words. -/
def writeBool (b : Bool) : List Char := (if b then "true" else "false").toList

/-- An integer in decimal digits. -/
def writeInteger (n : Int) : List Char := integerText n

/-- A text in quotes, with its escapes. -/
def writeString (text : String) : List Char := StringBody.write text.toList

/-- A binary number with the fewest digits that identify it. -/
def writeSingle (x : Single) : List Char :=
  if x.isFinite then NumberLayout.json.writeFinite x else "null".toList

/-- Items with a comma between any two. -/
def separated (items : List (List Char)) : List Char := [','].intercalate items

/-- Items in brackets. -/
def writeList (items : List (List Char)) : List Char := '[' :: (separated items ++ [']'])

/-- A list of texts. -/
def writeStrings (texts : List String) : List Char := writeList (texts.map writeString)

/-- A member of an object, its value already written. -/
def writeMember (name : String) (value : List Char) : List Char :=
  writeString name ++ ':' :: value

/-- Members in braces, in the order in which they are given. -/
def writeObject (members : List (List Char)) : List Char :=
  '\x7b' :: (separated members ++ ['\x7d'])

/-- A member that is left out when there is no value. -/
def optionalMember (name : String) (value : Option (List Char)) : List (List Char) :=
  (value.map (writeMember name)).toList

end ClassifierBridge.Json
