import ClassifierBridge.Registry.Basic

/-!
# `ClassifierBridge.Registry.Holder`: a registry and the references taken from it

A holder uses a registry and may keep references that it acquired there; a
reference is kept under a number and stays until it is dropped. `Holder.step`
answers one call. An engine that breaks off is the caller's to deal with here,
so a panic is an answer of its own.
-/

set_option autoImplicit false

namespace ClassifierBridge

/-- A registry and the references that were taken from it; a reference that was
dropped leaves its number empty. -/
structure Holder (E : Type) where
  registry : Registry E := {}
  kept : List (Option Nat) := []

/-- What a holder can do. -/
inductive HolderCall (F : Type) where
  | create (factory : F) (settings : Settings) (model : ModelRegion)
  /-- makes an instance without the registry's help and hands it over -/
  | insert (factory : F) (model : ModelRegion)
  | classify (handle : UInt64) (frame : Frame)
  | release (handle : UInt64)
  | contains (handle : UInt64)
  /-- takes a reference and keeps it -/
  | acquire (handle : UInt64)
  /-- hands the instance of a kept reference to the registry again -/
  | insertKept (number : Nat)
  /-- asks the instance of a kept reference -/
  | classifyKept (number : Nat) (frame : Frame)
  | drop (number : Nat)

/-- How a call ends. -/
inductive HolderReply where
  | done
  | handle (handle : UInt64)
  | records (records : List HeadRecord)
  | kept (number : Nat)
  | flag (b : Bool)
  | failed (failure : Failure)
  /-- the engine itself refused, with no bridge in between -/
  | refused (status : EngineStatus)
  | panicked (p : Panic)
  /-- no reference is kept under the number -/
  | notKept

namespace Holder

variable {F E : Type}

/-- The reference kept under a number. -/
def kept? (h : Holder E) (number : Nat) : Option Nat := h.kept[number]?.join

/-- The answer to a call that ended like this. -/
def reply {α : Type} (ok : α → HolderReply) : Outcome Failure α → HolderReply
  | .ok value => ok value
  | .error failure => .failed failure
  | .panic p => .panicked p

/-- The answer of an engine that was asked directly. -/
def engineReply {α : Type} (ok : α → HolderReply) : Outcome EngineStatus α → HolderReply
  | .ok value => ok value
  | .error status => .refused status
  | .panic p => .panicked p

/-- Answers a call. -/
def step (family : EngineFamily F E) (h : Holder E) :
    HolderCall F → HolderReply × Holder E × List Event
  | .create factory settings model =>
    let (outcome, _, registry, events) := h.registry.create family factory settings model
    (reply .handle outcome, { h with registry }, events)
  | .insert factory model =>
    match family.create factory (({} : Settings).engineConfig model) with
    | (.ok engine, _) =>
      let (handle, registry) := h.registry.insert engine
      (.handle handle, { h with registry }, [])
    | (.error status, _) => (.refused status, h, [])
    | (.panic p, _) => (.panicked p, h, [])
  | .classify handle frame =>
    let (outcome, registry, events) := h.registry.classify family handle frame
    (reply .records outcome, { h with registry }, events)
  | .release handle =>
    let (result, registry, events) := h.registry.release handle
    let answer := match result with
      | .ok () => .done
      | .error failure => .failed failure
    (answer, { h with registry }, events)
  | .contains handle => (.flag (h.registry.contains handle), h, [])
  | .acquire handle =>
    let (result, registry, events) := h.registry.acquire handle
    match result with
    | .ok ref => (.kept h.kept.length, ⟨registry, h.kept ++ [some ref]⟩, events)
    | .error failure => (.failed failure, { h with registry }, events)
  | .insertKept number =>
    match h.kept? number with
    | none => (.notKept, h, [])
    | some ref =>
      let (handle, registry) := h.registry.insertShared ref
      (.handle handle, { h with registry }, [])
  | .classifyKept number frame =>
    match h.kept? number with
    | none => (.notKept, h, [])
    | some ref =>
      match h.registry.pool.engine? ref with
      | none => (.notKept, h, [])
      | some engine =>
        let (outcome, engine) := family.classify engine frame
        (engineReply (fun answer => .records answer.records) outcome,
          { h with registry := { h.registry with pool := h.registry.pool.update ref engine } }, [])
  | .drop number =>
    match h.kept? number with
    | none => (.notKept, h, [])
    | some ref => (.done, ⟨h.registry.letGo ref, h.kept.set number none⟩, [])

end Holder

end ClassifierBridge
