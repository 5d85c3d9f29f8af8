import ClassifierBridge.Classifier
import ClassifierBridge.Registry.Pool

/-!
# `ClassifierBridge.Owner`: classifiers without a registry

A program that can hold a classifier itself needs no handles. An owner numbers
its classifiers in the order in which they were made and is their only owner, so
releasing one destroys it.
-/

set_option autoImplicit false

namespace ClassifierBridge

/-- What an owner can do. -/
inductive OwnerCall (F : Type) where
  | create (factory : F) (settings : Settings) (model : ModelRegion)
  | classify (number : Nat) (frame : Frame)
  | describe (number : Nat)
  | release (number : Nat)

/-- How a call ends. -/
inductive OwnerReply where
  | done
  | created (number : Nat)
  | records (records : List HeadRecord)
  | description (text : String)
  | failed (failure : Failure)
  | panicked (p : Panic)
  /-- there is no classifier with the number -/
  | absent

namespace Owner

variable {F E : Type}

/-- What a classifier says about itself. -/
def description : String := "ClassifierHandle \x7b .. \x7d"

/-- Answers a call on the classifiers in `pool`. -/
def step (family : EngineFamily F E) (pool : Pool E) :
    OwnerCall F → OwnerReply × Pool E × List Event
  | .create factory settings model =>
    match Classifier.create family factory settings model with
    | (.ok engine, _, events) =>
      let (number, pool) := pool.adopt engine
      (.created number, pool, events)
    | (.error failure, _, events) => (.failed failure, pool, events)
    | (.panic p, _, events) => (.panicked p, pool, events)
  | .classify number frame =>
    match pool.engine? number with
    | none => (.absent, pool, [])
    | some engine =>
      let (outcome, engine, events) := Classifier.classify family engine frame
      let reply := match outcome with
        | .ok records => .records records
        | .error failure => .failed failure
        | .panic p => .panicked p
      (reply, pool.update number engine, events)
  | .describe number =>
    match pool.engine? number with
    | none => (.absent, pool, [])
    | some _ => (.description description, pool, [])
  | .release number =>
    match pool.engine? number with
    | none => (.absent, pool, [])
    | some _ => (.done, pool.letGo number, [.releasing])

end Owner

end ClassifierBridge
