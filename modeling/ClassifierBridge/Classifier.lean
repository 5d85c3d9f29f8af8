import ClassifierBridge.Engine
import ClassifierBridge.Log.Event

/-!
# `ClassifierBridge.Classifier`: one engine instance, made and used

`Classifier.create` and `Classifier.classify` put the host's words in front of
an engine and the engine's words in front of the host: settings become a
configuration, answers become records, statuses become failures. A panic passes
through. Each call also says which events it causes.
-/

set_option autoImplicit false

namespace ClassifierBridge.Classifier

variable {F E : Type}

/-- Asks the factory for an instance with these settings. -/
def create (family : EngineFamily F E) (factory : F) (settings : Settings) (model : ModelRegion) :
    Outcome Failure E × F × List Event :=
  let creating := Event.creating model settings.maxResults settings.threshold
  match family.create factory (settings.engineConfig model) with
  | (.ok engine, factory) => (.ok engine, factory, [creating])
  | (.error status, factory) =>
    (.error (.initialization status), factory, [creating, .creationFailed status.code])
  | (.panic p, factory) => (.panic p, factory, [creating])

/-- Asks the instance to classify a frame. -/
def classify (family : EngineFamily F E) (engine : E) (frame : Frame) :
    Outcome Failure (List HeadRecord) × E × List Event :=
  match family.classify engine frame with
  | (.ok answer, engine) =>
    (.ok answer.records, engine, [.classified frame.dimension answer.records.length])
  | (.error status, engine) =>
    (.error (.classification status), engine,
      [.classificationFailed frame.dimension status.code])
  | (.panic p, engine) => (.panic p, engine, [])

end ClassifierBridge.Classifier
