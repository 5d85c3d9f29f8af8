import ClassifierBridge.Host.Reply
import ClassifierBridge.Host.Settings
import ClassifierBridge.Log.Filter
import ClassifierBridge.Registry.Basic

/-!
# `ClassifierBridge.Host.Session`: everything a host can ask for

A process has one registry, at most one installed engine and at most one log
filter. A `HostCall` is one call of the host or, for `install`, of the program
that embeds the bridge; `HostSession.step` answers it. No call fails outright:
what goes wrong is in the reply, and an engine that breaks off is reported as an
engine that refused.

Calls that have to do with a classifier are decided in stages, and a stage is
reached only if those before it went well: the arguments first, then the
installed engine or the handle, then the engine itself.
-/

set_option autoImplicit false

namespace ClassifierBridge

/-- The pixels of a host: nothing for a null pointer, otherwise the bytes in
memory, and the length that goes with it. -/
structure HostPixels where
  memory : Option ByteArray
  length : Nat

namespace HostPixels

/-- The largest length of a buffer, the largest of 63 bits. -/
def lengthLimit : Nat := 9223372036854775807

/-- The bytes of the buffer, or what is wrong with it. A null pointer is fine if
there is nothing behind it. -/
def read (p : HostPixels) : Except ArgumentFault ByteArray :=
  match p.memory with
  | none => if 0 < p.length then .error .nullPixels else .ok ByteArray.empty
  | some memory =>
    if lengthLimit < p.length then .error .tooManyPixels else .ok (memory.extract 0 p.length)

end HostPixels

/-- Where the settings of a new classifier come from. -/
inductive SettingsSource where
  /-- a structure, or a null pointer for the defaults -/
  | structure (settings : Option HostSettings)
  /-- a JSON text -/
  | document (text : HostText)

/-- The settings of a new classifier. -/
def SettingsSource.read : SettingsSource → Except Failure Settings
  | .structure none => .ok {}
  | .structure (some settings) => settings.read.mapError .invalidArgument
  | .document text =>
    match text.read with
    | .error fault => .error (.invalidArgument (.document fault))
    | .ok json => (Settings.ofJson json).mapError .config

/-- A call of the host. -/
inductive HostCall (F : Type) where
  /-- installs an engine in the place of the one installed before -/
  | install (factory : F)
  | init (model : ModelRegion) (source : SettingsSource)
  | classify (handle : UInt64) (pixels : HostPixels) (size : Dimension)
  | deinit (handle : UInt64)
  | liveHandles
  | initLogging (filter : HostText)

/-- The answer to a call. -/
inductive HostReply where
  | done
  | init (reply : InitReply)
  | classify (reply : ClassifyReply)
  | count (n : Nat)
  | flag (b : Bool)

/-- The state of a process between two calls. -/
structure HostSession (F E : Type) where
  registry : Registry E := {}
  factory : Option F := none
  filter : Option Filter := none

namespace HostSession

variable {F E : Type}

/-- The status that stands for an engine that broke off. -/
def panicStatus (p : Panic) : EngineStatus := ⟨.internal, "engine panicked: " ++ p.reason⟩

/-- The result of a call on an engine, a panic being one more way to refuse. -/
def settle {α : Type} (wrap : EngineStatus → Failure) :
    Outcome Failure α → Except Failure α × List Event
  | .ok value => (.ok value, [])
  | .error failure => (.error failure, [])
  | .panic p => (.error (wrap (panicStatus p)), [.enginePanicked p.reason])

/-- Makes a classifier with the installed engine. -/
def init (family : EngineFamily F E) (s : HostSession F E) (model : ModelRegion)
    (source : SettingsSource) : Except Failure UInt64 × HostSession F E × List Event :=
  -- The settings are looked at first, even if there is no engine to give them to.
  match source.read with
  | .error failure => (.error failure, s, [])
  | .ok settings =>
    match s.factory with
    | none => (.error .engineUnavailable, s, [])
    | some factory =>
      let (outcome, factory, registry, events) :=
        s.registry.create family factory settings model
      let (result, more) := settle .initialization outcome
      (result, { s with registry, factory := some factory }, events ++ more)

/-- Classifies with the instance behind a handle. -/
def classify (family : EngineFamily F E) (s : HostSession F E) (handle : UInt64)
    (pixels : HostPixels) (size : Dimension) :
    Except Failure (List HeadRecord) × HostSession F E × List Event :=
  match pixels.read with
  | .error fault => (.error (.invalidArgument fault), s, [])
  | .ok data =>
    -- The call is logged before it is known whether the handle is live.
    let (outcome, registry, events) := s.registry.classify family handle { data, dimension := size }
    let (result, more) := settle .classification outcome
    (result, { s with registry }, .classifyCalled handle size data.size :: (events ++ more))

/-- Puts a filter in force, unless one already is. A host that names none it can
spell gets the standard one. -/
def initLogging (s : HostSession F E) (filter : HostText) : Bool × HostSession F E :=
  match s.filter with
  | some _ => (false, s)
  | none =>
    let filter := match filter.read with
      | .ok text => Filter.ofText text
      | .error _ => Filter.standard
    (true, { s with filter := some filter })

/-- Answers a call. -/
def step (family : EngineFamily F E) (s : HostSession F E) :
    HostCall F → HostReply × HostSession F E × List Event
  | .install factory => (.done, { s with factory := some factory }, [])
  | .init model source =>
    let (result, s, events) := s.init family model source
    (.init (InitReply.ofResult result), s, events)
  | .classify handle pixels size =>
    let (result, s, events) := s.classify family handle pixels size
    (.classify (ClassifyReply.ofResult result), s, events)
  | .deinit handle =>
    let (_, registry, events) := s.registry.release handle
    (.done, { s with registry }, events)
  | .liveHandles => (.count s.registry.size, s, [])
  | .initLogging filter =>
    let (first, s) := s.initLogging filter
    (.flag first, s, [])

/-- Answers calls one after the other. -/
def run (family : EngineFamily F E) (s : HostSession F E) :
    List (HostCall F) → List HostReply × HostSession F E × List Event
  | [] => ([], s, [])
  | call :: calls =>
    let (reply, s, events) := s.step family call
    let (replies, s, more) := run family s calls
    (reply :: replies, s, events ++ more)

end HostSession

/-- The version that hosts are told. -/
def version : String := "0.1.0"

end ClassifierBridge
