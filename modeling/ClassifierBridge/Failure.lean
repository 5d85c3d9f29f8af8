import ClassifierBridge.Settings.Reader

/-!
# `ClassifierBridge.Failure`: why a request failed

An engine reports an `EngineStatus`. A host sees a `Failure`: the engine's
status, passed on under a heading, or a request that never reached an engine.
`Failure.kind` sorts failures into the three kinds that hosts tell apart, and
`Failure.message` is the text that they show.
-/

set_option autoImplicit false

namespace ClassifierBridge

/-- What kind of failure an engine reports. -/
inductive StatusCode where
  | invalidArgument
  | notFound
  | internal
deriving DecidableEq, Repr

/-- The name of a code in the log. -/
def StatusCode.name : StatusCode → String
  | .invalidArgument => "InvalidArgument"
  | .notFound => "NotFound"
  | .internal => "Internal"

/-- A failure as an engine reports it. -/
structure EngineStatus where
  code : StatusCode
  message : String
deriving DecidableEq, Repr

/-- What can be wrong with a string that a host points to. -/
inductive TextFault where
  | null
  | notUtf8
deriving DecidableEq, Repr

/-- The two lists of class names. -/
inductive NameList where
  | allow
  | deny
deriving DecidableEq, Repr

/-- What a list of names is called in an error. -/
def NameList.describe : NameList → String
  | .allow => "class name allow list"
  | .deny => "class name deny list"

/-- A fault in a list of strings: which entry is faulty and how. -/
structure EntryFault where
  index : Nat
  fault : TextFault
deriving DecidableEq, Repr

/-- What is wrong with a text. -/
def TextFault.message : TextFault → String
  | .null => "null pointer"
  | .notUtf8 => "invalid UTF-8"

/-- What is wrong with an entry of a list, and which one it is. -/
def EntryFault.message (f : EntryFault) : String :=
  (match f.fault with
    | .null => "null string"
    | .notUtf8 => "invalid UTF-8") ++ " at index " ++ Nat.repr f.index

/-- What is wrong with an argument of a host. -/
inductive ArgumentFault where
  | locale (fault : TextFault)
  | names (list : NameList) (fault : EntryFault)
  | document (fault : TextFault)
  | nullPixels
  | tooManyPixels
  /-- a label that no string of the host can hold, with the place of its NUL -/
  | nulInLabel (position : Nat)
  | other (text : String)

/-- What is wrong with an argument, with the argument first. -/
def ArgumentFault.message : ArgumentFault → String
  | .locale fault => "display names locale: " ++ fault.message
  | .names list fault => list.describe ++ ": " ++ fault.message
  | .document fault => "options json: " ++ fault.message
  | .nullPixels => "null pixel buffer"
  | .tooManyPixels => "pixel buffer length exceeds isize::MAX"
  | .nulInLabel position => "category label contains a NUL byte at " ++ Nat.repr position
  | .other text => text

/-- Why a request failed. -/
inductive Failure where
  /-- the engine refused the settings or the model -/
  | initialization (status : EngineStatus)
  /-- the engine refused the frame or broke down -/
  | classification (status : EngineStatus)
  /-- no classifier has this handle, or none has it any more -/
  | invalidHandle (handle : UInt64)
  | invalidArgument (fault : ArgumentFault)
  | config (error : ConfigError)
  /-- no engine has been installed -/
  | engineUnavailable

/-- The kinds of failure that hosts tell apart. -/
inductive FailureKind where
  /-- the engine refused the request -/
  | engineRefusal
  /-- the host handed over something that cannot be used -/
  | hostError
  /-- the request cannot be served at this time -/
  | notReady
deriving DecidableEq, Repr

/-- The number of a kind. Zero is left for success. -/
def FailureKind.code : FailureKind → Int32
  | .engineRefusal => 1
  | .hostError => 2
  | .notReady => 3

namespace Failure

/-- Who is to act: the engine refused, the host made an error, or no engine is there yet. -/
def kind : Failure → FailureKind
  | .initialization _ | .classification _ => .engineRefusal
  | .invalidHandle _ | .invalidArgument _ | .config _ => .hostError
  | .engineUnavailable => .notReady

/-- The status that the engine reported, if the failure is the engine's. -/
def status? : Failure → Option EngineStatus
  | .initialization status | .classification status => some status
  | _ => none

/-- The message that the host gets. The text of an engine or of the reader is part of it,
unchanged. -/
def message : Failure → String
  | .initialization status =>
    "Error occurred when initializing classifier: " ++ status.message
  | .classification status =>
    "Error occurred when classifying the image: " ++ status.message
  | .invalidHandle handle => "invalid classifier handle: " ++ Nat.repr handle.toNat
  | .invalidArgument fault => "invalid argument: " ++ fault.message
  | .config error => "configuration error: " ++ error.message
  | .engineUnavailable => "no image classifier engine installed"

end Failure

end ClassifierBridge
