import ClassifierBridge.Classifier
import ClassifierBridge.Registry.Pool

/-!
# `ClassifierBridge.Registry.Basic`: classifiers behind numeric handles

A host that can hold nothing but a number gets a handle for each classifier. The
registry owns the classifiers: `insert` issues the next number for one, `release`
ends its ownership, and `classify` finds the instance behind a number. Handles
start at one and count up, so zero is free to mean "no handle" and a handle that
was released never comes back.

A reference may be taken out of the registry with `acquire`; its owner keeps the
instance alive after the handle is gone. `Registry.letGo` ends that, too.

* `ref?_enter`, `ref?_release`: what a call changes in the map from handles to
  instances.
* `contains_iff_mem_handles`: the map and the list of live handles agree.
-/

set_option autoImplicit false

namespace ClassifierBridge

/-- The live handles, each with the reference of its instance, and the
instances. -/
structure Registry (E : Type) where
  next : UInt64 := 1
  entries : List (UInt64 × Nat) := []
  pool : Pool E := {}

namespace Registry

variable {F E : Type}

/-- The reference of the instance behind a handle. -/
def ref? (r : Registry E) (handle : UInt64) : Option Nat := r.entries.lookup handle

/-- Whether a handle is live. -/
def contains (r : Registry E) (handle : UInt64) : Bool := (r.ref? handle).isSome

/-- The live handles. -/
def handles (r : Registry E) : List UInt64 := r.entries.map Prod.fst

/-- The number of live handles. -/
def size (r : Registry E) : Nat := r.entries.length

/-- The entries without a handle. -/
def without (entries : List (UInt64 × Nat)) (handle : UInt64) : List (UInt64 × Nat) :=
  entries.filter fun entry => entry.1 != handle

/-- A handle is gone after its removal, and the others stand for what they stood for. -/
theorem lookup_without (entries : List (UInt64 × Nat)) (handle other : UInt64) :
    (without entries handle).lookup other
      = if other = handle then none else entries.lookup other := by
  induction entries with
  | nil => simp only [without, List.filter_nil, List.lookup_nil, ite_self]
  | cons entry entries ih =>
      obtain ⟨key, ref⟩ := entry
      simp only [without, List.filter_cons, List.lookup_cons] at ih ⊢
      by_cases hk : key = handle <;> by_cases ho : other = key <;> grind

/-- A handle is live when it is among the live handles. -/
theorem contains_iff_mem_handles (r : Registry E) (handle : UInt64) :
    r.contains handle = true ↔ handle ∈ r.handles := by
  unfold contains ref? handles
  induction r.entries with
  | nil => simp
  | cons entry entries ih =>
      obtain ⟨key, ref⟩ := entry
      rw [List.lookup_cons, List.map_cons, List.mem_cons]
      by_cases h : handle = key
      · simp [h]
      · rw [beq_eq_false_iff_ne.mpr h]
        simp only [h, false_or]
        exact ih

/-- Issues the next handle for an instance of the pool. The caller's ownership
passes to the entry. An entry that already has this handle, which can only be
after all handles were issued once, gives way. -/
def enter (r : Registry E) (ref : Nat) : UInt64 × Registry E :=
  let pool := match r.ref? r.next with
    | some replaced => r.pool.letGo replaced
    | none => r.pool
  (r.next, ⟨r.next + 1, without r.entries r.next ++ [(r.next, ref)], pool⟩)

/-- The new handle finds the instance; the others find what they found before. -/
theorem ref?_enter (r : Registry E) (ref : Nat) (handle : UInt64) :
    (r.enter ref).2.ref? handle = if handle = r.next then some ref else r.ref? handle := by
  unfold enter ref?
  simp only [List.lookup_append, lookup_without]
  by_cases h : handle = r.next
  · simp [h]
  · rw [List.lookup_cons, beq_eq_false_iff_ne.mpr h, List.lookup_nil, Option.or_none,
      if_neg h, if_neg h]

/-- Takes in a new instance and issues its handle. -/
def insert (r : Registry E) (engine : E) : UInt64 × Registry E :=
  let (ref, pool) := r.pool.adopt engine
  { r with pool }.enter ref

/-- Makes a classifier and issues its handle. No handle is used up if there is
no instance. -/
def create (family : EngineFamily F E) (r : Registry E) (factory : F) (settings : Settings)
    (model : ModelRegion) : Outcome Failure UInt64 × F × Registry E × List Event :=
  match Classifier.create family factory settings model with
  -- A handle is issued only now, for an instance that is there.
  | (.ok engine, factory, events) =>
    let (handle, r) := r.insert engine
    (.ok handle, factory, r, events ++ [.registered handle])
  | (.error failure, factory, events) => (.error failure, factory, r, events)
  | (.panic p, factory, events) => (.panic p, factory, r, events)

/-- Finds the instance behind a handle, for a call on it. -/
def find (r : Registry E) (handle : UInt64) : Option (Nat × E) := do
  let ref ← r.ref? handle
  let engine ← r.pool.engine? ref
  return (ref, engine)

/-- Classifies a frame with the instance behind a handle. -/
def classify (family : EngineFamily F E) (r : Registry E) (handle : UInt64) (frame : Frame) :
    Outcome Failure (List HeadRecord) × Registry E × List Event :=
  match r.find handle with
  | none => (.error (.invalidHandle handle), r, [.useOfUnknown handle])
  | some (ref, engine) =>
    let (outcome, engine, events) := Classifier.classify family engine frame
    (outcome, { r with pool := r.pool.update ref engine }, events)

/-- Ends the registry's ownership of the instance behind a handle. -/
def release (r : Registry E) (handle : UInt64) : Except Failure Unit × Registry E × List Event :=
  match r.ref? handle with
  | none => (.error (.invalidHandle handle), r, [.releaseOfUnknown handle])
  | some ref =>
    (.ok (), { r with entries := without r.entries handle, pool := r.pool.letGo ref },
      [.released handle])

/-- A released handle finds nothing; the others find what they found before. -/
theorem ref?_release (r : Registry E) (handle other : UInt64) :
    (r.release handle).2.1.ref? other = if other = handle then none else r.ref? other := by
  unfold release
  split
  · next hgone =>
      split
      · next hsame => rw [hsame, hgone]
      · rfl
  · exact lookup_without ..

/-- Hands out a reference to the instance behind a handle, which from then on
has one owner more. -/
def acquire (r : Registry E) (handle : UInt64) : Except Failure Nat × Registry E × List Event :=
  match r.ref? handle with
  | none => (.error (.invalidHandle handle), r, [.useOfUnknown handle])
  | some ref => (.ok ref, { r with pool := r.pool.share ref }, [])

/-- Issues another handle for an instance that is already owned. -/
def insertShared (r : Registry E) (ref : Nat) : UInt64 × Registry E :=
  { r with pool := r.pool.share ref }.enter ref

/-- Gives up a reference that was handed out. -/
def letGo (r : Registry E) (ref : Nat) : Registry E := { r with pool := r.pool.letGo ref }

end Registry

end ClassifierBridge
