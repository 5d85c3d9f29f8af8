import ClassifierBridge.Classification
import ClassifierBridge.Failure
import ClassifierBridge.Frame

/-!
# `ClassifierBridge.Engine`: the seam to the engines

The bridge does not classify anything itself. An `EngineFamily` says how engines
of some kind are made and asked, for any type of factory and any type of
instance, each with a state of its own. A call on either ends in one of three
ways: with a result, with a status, or in a panic, which is no answer at all.
-/

set_option autoImplicit false

namespace ClassifierBridge

/-- What is left of a call that broke off. -/
inductive Panic where
  | text (reason : String)
  /-- the engine left something that is not a text -/
  | other
deriving DecidableEq, Repr

/-- The reason to report. -/
def Panic.reason : Panic → String
  | .text reason => reason
  | .other => "unknown panic"

/-- How a call ends. -/
inductive Outcome (ε α : Type) where
  | ok (value : α)
  | error (e : ε)
  | panic (p : Panic)

/-- How engines of one kind are made and asked. -/
structure EngineFamily (F E : Type) where
  /-- asks a factory for an instance -/
  create : F → EngineConfig → Outcome EngineStatus E × F
  /-- asks an instance to classify a frame -/
  classify : E → Frame → Outcome EngineStatus Classification × E

end ClassifierBridge
