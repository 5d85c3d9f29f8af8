import ClassifierBridge.Engines.Brightness
import ClassifierBridge.Engines.Echo
import ClassifierBridge.Engines.Script

/-!
# `ClassifierBridge.Engines.Sample`: the engines for trying out a host

The three engines as one family, so that a session may use them side by side.
-/

set_option autoImplicit false

namespace ClassifierBridge

/-- Which engine a factory makes. -/
inductive SampleFactory where
  | brightness
  | echo
  | script (script : Script)

/-- An instance of one of the engines. -/
inductive SampleEngine where
  | brightness (e : Brightness)
  | echo (e : Echo)
  | script (p : Performance)

/-- The same end of a call, its result seen as something else. -/
def Outcome.map {ε α β : Type} (f : α → β) : Outcome ε α → Outcome ε β
  | .ok value => .ok (f value)
  | .error e => .error e
  | .panic p => .panic p

/-- The family of the three engines. Their factories have no state, and of the
instances only a script has one. -/
def sampleFamily : EngineFamily SampleFactory SampleEngine where
  create factory config :=
    let made : Outcome EngineStatus SampleEngine := match factory with
      | .brightness => (Brightness.create config).map .brightness
      | .echo => (Echo.create config).map .echo
      | .script script => (Performance.create script).map .script
    (made, factory)
  classify engine frame :=
    match engine with
    | .brightness e => (e.classify frame, engine)
    | .echo e => (e.classify frame, engine)
    | .script p =>
      let (reply, p) := p.classify
      (reply, .script p)

end ClassifierBridge
