import ClassifierBridge.Failure
import ClassifierBridge.Frame

/-!
# `ClassifierBridge.Log.Event`: what is worth a line in the log

Everything that the bridge reports about its own work is an `Event`. An event
holds the values that its line shows and nothing more: sizes, counts, codes and
handles, never pixels, labels or configured names. The one text that comes from
an engine is the reason of a panic.
-/

set_option autoImplicit false

namespace ClassifierBridge

/-- How urgent an event is, the most urgent first. -/
inductive Level where
  | error
  | warn
  | info
  | debug
  | trace
deriving DecidableEq, Repr

namespace Level

/-- The name of a level, as it is printed. -/
def name : Level → String
  | .error => "ERROR"
  | .warn => "WARN"
  | .info => "INFO"
  | .debug => "DEBUG"
  | .trace => "TRACE"

/-- The place in the order of urgency. -/
def rank : Level → Nat
  | .error => 1
  | .warn => 2
  | .info => 3
  | .debug => 4
  | .trace => 5

end Level

/-- The part of the bridge that an event comes from. -/
inductive Source where
  | classifier
  | registry
  | host
deriving DecidableEq, Repr

/-- The name by which log filters select a source. -/
def Source.target : Source → String
  | .classifier => "vision_classifier::handle"
  | .registry => "vision_classifier::registry"
  | .host => "vision_classifier::ffi"

/-- Something that happened. -/
inductive Event where
  /-- an engine is about to be asked for an instance -/
  | creating (model : ModelRegion) (maxResults : Int32) (threshold : Option Single)
  | creationFailed (code : StatusCode)
  | classified (size : Dimension) (heads : Nat)
  | classificationFailed (size : Dimension) (code : StatusCode)
  | releasing
  | registered (handle : UInt64)
  | released (handle : UInt64)
  | releaseOfUnknown (handle : UInt64)
  | useOfUnknown (handle : UInt64)
  /-- a host asked for a classification and its buffer can be read -/
  | classifyCalled (handle : UInt64) (size : Dimension) (length : Nat)
  | enginePanicked (reason : String)

namespace Event

/-- Refusals are warnings, a panic is an error, and all else is for debugging. -/
def level : Event → Level
  | .creating .. | .classified .. | .releasing | .registered _ | .released _
  | .classifyCalled .. => .debug
  | .creationFailed _ | .classificationFailed .. | .releaseOfUnknown _ | .useOfUnknown _ => .warn
  | .enginePanicked _ => .error

/-- The part of the bridge that reports the event. -/
def source : Event → Source
  | .creating .. | .creationFailed _ | .classified .. | .classificationFailed ..
  | .releasing => .classifier
  | .registered _ | .released _ | .releaseOfUnknown _ | .useOfUnknown _ => .registry
  | .classifyCalled .. | .enginePanicked _ => .host

/-- The message is fixed for each kind of event. What varies is in the fields. -/
def message : Event → String
  | .creating .. => "creating image classifier"
  | .creationFailed _ => "classifier initialization failed"
  | .classified .. => "classified frame"
  | .classificationFailed .. => "classification failed"
  | .releasing => "releasing image classifier"
  | .registered _ => "registered image classifier"
  | .released _ => "released image classifier"
  | .releaseOfUnknown _ => "release of unknown classifier handle"
  | .useOfUnknown _ => "use of unknown classifier handle"
  | .classifyCalled .. => "classify"
  | .enginePanicked _ => "image classifier engine panicked"

/-- A threshold in a log line. -/
def thresholdText : Option Single → String
  | none => "None"
  | some x => "Some(" ++ String.ofList (NumberLayout.log.write x) ++ ")"

/-- A number in a field. -/
def integer (n : Int) : String := String.ofList (Json.integerText n)

/-- Width and height, as two fields. -/
def sizeFields (size : Dimension) : List (String × String) :=
  [("width", Nat.repr size.width.toNat), ("height", Nat.repr size.height.toNat)]

/-- A handle, as a field. -/
def handleField (handle : UInt64) : String × String := ("handle", Nat.repr handle.toNat)

/-- The values that the line of an event shows, by name. -/
def fields : Event → List (String × String)
  | .creating model maxResults threshold =>
    [("fd", integer model.fd.toInt), ("length", integer model.length.toInt),
      ("offset", integer model.offset.toInt), ("max_results", integer maxResults.toInt),
      ("score_threshold", thresholdText threshold)]
  | .creationFailed code => [("code", code.name)]
  | .classified size heads => sizeFields size ++ [("heads", Nat.repr heads)]
  | .classificationFailed size code => sizeFields size ++ [("code", code.name)]
  | .releasing => []
  | .registered handle | .released handle | .releaseOfUnknown handle | .useOfUnknown handle =>
    [handleField handle]
  | .classifyCalled handle size length =>
    handleField handle :: (sizeFields size ++ [("len", Nat.repr length)])
  | .enginePanicked reason => [("reason", reason)]

/-- The names that a log filter knows the parts of an event by. -/
def fieldNames (e : Event) : List String := "message" :: e.fields.map Prod.fst

/-- The line of an event. -/
def line (e : Event) : String :=
  e.level.name ++ " " ++ e.source.target ++ ": "
    ++ " ".intercalate (e.message :: e.fields.map fun (name, value) => name ++ "=" ++ value)

end Event

end ClassifierBridge
