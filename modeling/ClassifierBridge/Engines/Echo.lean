import ClassifierBridge.Engine
import ClassifierBridge.Settings.Writer

/-!
# `ClassifierBridge.Engines.Echo`: an engine that says what it was given

An engine for trying out a host: its answer holds the configuration it was made
from and a description of the frame, so that a host can see what reached the
engine. Some configurations make it refuse or break off.
-/

set_option autoImplicit false

namespace ClassifierBridge

/-- An engine that answers with its own configuration. -/
structure Echo where
  config : EngineConfig

namespace Echo

/-- Refuses models by their numbers, so that each status can be asked for, and breaks off
for one locale. -/
def create (config : EngineConfig) : Outcome EngineStatus Echo :=
  let model := config.model
  if model.fd < 0 then .error ⟨.invalidArgument, "Unable to map model file"⟩
  else if model.length < 0 then
    .error ⟨.notFound, "negative length " ++ String.ofList (Json.integerText model.length.toInt)⟩
  else if model.offset < 0 then
    .error ⟨.internal, "negative offset " ++ String.ofList (Json.integerText model.offset.toInt)⟩
  else if config.locale == "panic-on-init" then .panic (.text "mirror factory failure")
  else .ok ⟨config⟩

/-- A pixel in words. -/
def pixelText : Option (UInt8 × UInt8 × UInt8) → String
  | none => "none"
  | some (r, g, b) => ",".intercalate [Nat.repr r.toNat, Nat.repr g.toNat, Nat.repr b.toNat]

/-- A frame in words: its size, its length and its outermost pixels. -/
def frameText (frame : Frame) : String :=
  let width := frame.dimension.width
  let height := frame.dimension.height
  -- An empty frame has no last row; its row zero is missing, too.
  let last (n : UInt32) : UInt32 := if n = 0 then 0 else n - 1
  Nat.repr width.toNat ++ "x" ++ Nat.repr height.toNat
    ++ " len=" ++ Nat.repr frame.data.size
    ++ " expected=" ++ Nat.repr frame.expectedLength
    ++ " complete=" ++ (if frame.isComplete then "true" else "false")
    ++ " first=" ++ pixelText (frame.pixel? 0 0)
    ++ " last=" ++ pixelText (frame.pixel? (last width) (last height))

/-- One part in `parts`, as a score. -/
def fraction (parts : Nat) : Single := Binary.round false (mkRat 1 parts)

/-- A list of names as categories, numbered in order. -/
def numbered (names : List String) (category : Int32 → String → Category) : List Category :=
  names.mapIdx fun i name => category (Int32.ofNat i) name

/-- Answers with the configuration that it was created from and with what it was asked. -/
def classify (e : Echo) (frame : Frame) : Outcome EngineStatus Classification :=
  let config := e.config
  if config.locale == "panic" then .panic (.text "mirror engine failure")
  else
    .ok ⟨[
      ⟨0, [⟨0, fraction 2, "locale", config.locale⟩,
        ⟨1, config.threshold.getD (Binary.ofInt (-1)), config.toJson, ""⟩]⟩,
      ⟨1, numbered config.whitelist fun i name => ⟨i, fraction 8, name, ""⟩⟩,
      ⟨2, numbered config.blacklist fun i name => ⟨i, fraction 4, "denied", name⟩⟩,
      ⟨-7, [⟨0, Binary.ofInt 1, frameText frame, ""⟩]⟩]⟩

end Echo

end ClassifierBridge
