import ClassifierBridge.Engine

/-!
# `ClassifierBridge.Engines.Script`: an engine that follows a script

An engine for trying out a host: what its factory does and what it answers to
each call is written down beforehand. The answers are given in turn and start
over at the end; a call that fails or breaks off counts like any other.
-/

set_option autoImplicit false

namespace ClassifierBridge

/-- How the making of an instance goes and how its calls end, in turn. -/
structure Script where
  start : Outcome EngineStatus Unit
  replies : List (Outcome EngineStatus Classification)

/-- A script and how many calls have been answered from it. -/
structure Performance where
  script : Script
  calls : Nat

namespace Performance

/-- Begins as the script says. -/
def create (script : Script) : Outcome EngineStatus Performance :=
  match script.start with
  | .ok () => .ok ⟨script, 0⟩
  | .error status => .error status
  | .panic p => .panic p

/-- The reply to the next call. A script without replies has nothing to say. -/
def reply (p : Performance) : Outcome EngineStatus Classification :=
  (p.script.replies[p.calls % p.script.replies.length]?).getD (.ok {})

/-- Answers with the next reply of the script, and moves on. -/
def classify (p : Performance) : Outcome EngineStatus Classification × Performance :=
  (p.reply, { p with calls := p.calls + 1 })

end Performance

end ClassifierBridge
