import ClassifierBridge.Failure

/-!
# `ClassifierBridge.Host.Text`: strings and arrays that cross to the host

On the host's side a string is a pointer to bytes that end at the first zero
byte, and an array is a pointer with a length. Either pointer may be null.
Coming in, a string has to be UTF-8 (`HostText.read`). Going out, a text can
only be handed over if it has no NUL of its own: `CString` holds exactly those,
and `CString.orFallback` puts a fixed text in the place of the others.
-/

set_option autoImplicit false

namespace ClassifierBridge

/-- A string of the host: nothing for a null pointer, otherwise the bytes of
memory from the pointer up to where the host put its last zero byte. -/
abbrev HostText := Option (List UInt8)

namespace HostText

/-- The bytes that belong to the string. -/
def bytes (memory : List UInt8) : List UInt8 := memory.takeWhile (· != 0)

/-- Reads a string that has to be there. -/
def read (s : HostText) : Except TextFault String :=
  match s with
  | none => .error .null
  | some memory =>
    match Utf8.decode? (bytes memory) with
    | some text => .ok (String.ofList text)
    | none => .error .notUtf8

/-- Reads a string that may be left out. -/
def read? (s : HostText) : Except TextFault (Option String) :=
  match s with
  | none => .ok none
  | some _ => (read s).map some

end HostText

/-- An array of the host: nothing for a null pointer, otherwise the items in
memory, and the length that goes with it. -/
structure HostArray (α : Type) where
  items : Option (List α)
  length : Nat

namespace HostArray

variable {α : Type}

/-- The items of the array. There are none behind a null pointer, whatever the
length says. -/
def read (a : HostArray α) : List α :=
  match a.items with
  | none => []
  | some items => items.take a.length

/-- A list as an array. An empty list needs no memory and has a null pointer, so
that a host can look at the pointer alone. -/
def ofList (items : List α) : HostArray α :=
  if items.isEmpty then ⟨none, 0⟩ else ⟨some items, items.length⟩

/-- A list survives the way into an array and back. -/
theorem read_ofList (items : List α) : (ofList items).read = items := by
  unfold ofList
  cases items with
  | nil => rfl
  | cons a rest => exact List.take_length

end HostArray

/-- Reads the strings of an array; the first faulty one decides. `index` counts
the entries before these. -/
def readTexts (index : Nat) (entries : List HostText) : Except EntryFault (List String) :=
  match entries with
  | [] => .ok []
  | entry :: entries =>
    match HostText.read entry with
    | .error fault => .error ⟨index, fault⟩
    | .ok text => (readTexts (index + 1) entries).map (text :: ·)

/-- A text without a NUL: one that the host can read in full. -/
structure CString where
  text : String
  noNul : '\x00' ∉ text.toList

namespace CString

/-- The place of the first NUL, counted in bytes. -/
def nulPosition (text : String) : Nat := Utf8.byteLength (text.toList.takeWhile (· != '\x00'))

/-- The text as a string for the host, or the place of the NUL that prevents
it. -/
def ofText (text : String) : Except Nat CString :=
  if h : '\x00' ∈ text.toList then .error (nulPosition text) else .ok ⟨text, h⟩

/-- The empty string. -/
def empty : CString := ⟨"", by simp⟩

/-- The text, or the fallback where the text has a NUL. A fallback with a NUL is
no better than none. -/
def orFallback (text fallback : String) : CString :=
  match ofText text with
  | .ok s => s
  | .error _ =>
    match ofText fallback with
    | .ok s => s
    | .error _ => empty

/-- A C string comes of the text that it holds and of no other. -/
theorem ofText_eq_ok_iff {text : String} {s : CString} :
    ofText text = .ok s ↔ s.text = text := by
  unfold ofText
  constructor
  · intro h
    split at h
    · cases h
    · cases h
      rfl
  · rintro rfl
    rw [dif_neg s.noNul]

end CString

end ClassifierBridge
