import ClassifierBridge.Engines.Sample
import ClassifierBridge.Proofs.Host.Events

/-!
# `ClassifierBridge.Proofs.Host.Asked`: what a call asks of the engines

How often an engine is asked, and for what, cannot be seen in a session: it keeps no notes.
`EngineFamily.noting` has the same engines, except that every factory notes the
configurations and every instance the frames that it is asked about. `HostSession.asked` runs
a call with these engines, from empty notes, and hands over the notes: the requests of the
call, each as often as it was made.

Taking notes does not change what happens. This is a case of a general fact: where the
factories and instances of one family are pictures of those of another, so are the sessions.

* `EngineFamily.Maps`, `step_map`, `run_map`: sessions of two such families.
* `run_noting`: the replies, the events and the session are those without notes.
* `asked_init`, `asked_classify`: the requests of the two calls that reach an engine.
* `asked_of_other`: the other calls ask nothing.
-/

set_option autoImplicit false

namespace ClassifierBridge

variable {F E F' E' : Type}

/-! ### Pictures of a session -/

/-- The pool with another instance in the place of each. -/
def Pool.map (g : E → E') (pool : Pool E) : Pool E' :=
  ⟨pool.places.map (Option.map fun tenant => ⟨g tenant.engine, tenant.owners⟩)⟩

/-- The registry with another instance in the place of each. -/
def Registry.map (g : E → E') (r : Registry E) : Registry E' := ⟨r.next, r.entries, r.pool.map g⟩

/-- The session with other factories and instances. -/
def HostSession.map (f : F → F') (g : E → E') (s : HostSession F E) : HostSession F' E' :=
  ⟨s.registry.map g, s.factory.map f, s.filter⟩

/-- The call with another factory. -/
def HostCall.map (f : F → F') : HostCall F → HostCall F'
  | .install factory => .install (f factory)
  | .init model source => .init model source
  | .classify handle pixels size => .classify handle pixels size
  | .deinit handle => .deinit handle
  | .liveHandles => .liveHandles
  | .initLogging filter => .initLogging filter

namespace Pool

variable (g : E → E') (pool : Pool E)

/-- A place of the picture is the picture of the place, with as many owners. -/
@[simp] theorem tenant?_map (ref : Nat) :
    (pool.map g).tenant? ref
      = (pool.tenant? ref).map fun tenant => ⟨g tenant.engine, tenant.owners⟩ := by
  simp only [tenant?, map, List.getElem?_map]
  cases pool.places[ref]? <;> rfl

/-- The instance at a place is the picture of the one that was there. -/
@[simp] theorem engine?_map (ref : Nat) : (pool.map g).engine? ref = (pool.engine? ref).map g := by
  simp only [engine?, tenant?_map, Option.map_map]
  rfl

/-- A picture that moves in gets the place that its original got. -/
@[simp] theorem adopt_map (engine : E) :
    (pool.map g).adopt (g engine) = ((pool.adopt engine).1, (pool.adopt engine).2.map g) := by
  simp [adopt, map]

/-- Writing a place and taking the picture can be done in either order. -/
@[simp] theorem put_map (ref : Nat) (place : Option (Tenant E)) :
    (pool.map g).put ref (place.map fun tenant => ⟨g tenant.engine, tenant.owners⟩)
      = (pool.put ref place).map g := by
  simp [put, map, List.map_set]

/-- So can replacing an instance. -/
theorem update_map (ref : Nat) (engine : E) :
    (pool.map g).update ref (g engine) = (pool.update ref engine).map g := by
  simp only [update, tenant?_map]
  cases pool.tenant? ref with
  | none => rfl
  | some tenant => exact put_map g pool ref (some { tenant with engine })

/-- So can letting go of one, as the owners are the same. -/
theorem letGo_map (ref : Nat) : (pool.map g).letGo ref = (pool.letGo ref).map g := by
  simp only [letGo, tenant?_map]
  cases pool.tenant? ref with
  | none => rfl
  | some tenant =>
      simp only [Option.map_some]
      split
      · exact put_map g pool ref none
      · exact put_map g pool ref (some { tenant with owners := tenant.owners - 1 })

end Pool

namespace Registry

variable (g : E → E') (r : Registry E)

/-- A handle leads to the picture of what it led to. -/
@[simp] theorem find_map (handle : UInt64) :
    (r.map g).find handle = (r.find handle).map fun found => (found.1, g found.2) := by
  simp only [find, map, ref?]
  cases r.entries.lookup handle with
  | none => rfl
  | some ref =>
      simp only [Option.bind_eq_bind, Option.bind_some, Pool.engine?_map]
      cases r.pool.engine? ref <;> rfl

/-- A picture gets the handle that its original got. -/
theorem insert_map (engine : E) :
    (r.map g).insert (g engine) = ((r.insert engine).1, (r.insert engine).2.map g) := by
  simp only [insert, enter, map, Pool.adopt_map, ref?]
  -- A handle that was in use already would be let go of, in both registries.
  cases r.entries.lookup r.next with
  | none => rfl
  | some replaced => simp only [Pool.letGo_map]

/-- A release ends in the picture of the registry, with the same outcome and events. -/
theorem release_map (handle : UInt64) :
    (r.map g).release handle
      = ((r.release handle).1, (r.release handle).2.1.map g, (r.release handle).2.2) := by
  simp only [release, map, ref?]
  cases r.entries.lookup handle with
  | none => rfl
  | some ref => simp only [Pool.letGo_map]

end Registry

/-- The factories and instances of one family are pictures of those of another: they answer
alike, and what a request makes of a picture is the picture of what it makes of the
original. -/
structure EngineFamily.Maps (family : EngineFamily F E) (family' : EngineFamily F' E')
    (f : F → F') (g : E → E') : Prop where
  create : ∀ factory config, family'.create (f factory) config
    = ((family.create factory config).1.map g, f (family.create factory config).2)
  classify : ∀ engine frame, family'.classify (g engine) frame
    = ((family.classify engine frame).1, g (family.classify engine frame).2)

section Maps

variable {family : EngineFamily F E} {family' : EngineFamily F' E'} {f : F → F'} {g : E → E'}

/-- A request for an instance has the same outcome and events, and ends in pictures. -/
theorem Registry.create_map (h : family.Maps family' f g) (r : Registry E) (factory : F)
    (settings : Settings) (model : ModelRegion) :
    (r.map g).create family' (f factory) settings model
      = let (outcome, factory, registry, events) := r.create family factory settings model
        (outcome, f factory, registry.map g, events) := by
  simp only [create, Classifier.create, h.create]
  rcases family.create factory (settings.engineConfig model) with ⟨_ | _ | _, _⟩
  · simp only [Outcome.map, insert_map]
  · rfl
  · rfl

/-- So has a request to an instance. -/
theorem Registry.classify_map (h : family.Maps family' f g) (r : Registry E) (handle : UInt64)
    (frame : Frame) :
    (r.map g).classify family' handle frame
      = let (outcome, registry, events) := r.classify family handle frame
        (outcome, registry.map g, events) := by
  simp only [classify, Classifier.classify, find_map]
  cases r.find handle with
  | none => rfl
  | some found =>
      simp only [Option.map_some, h.classify]
      rcases family.classify found.2 frame with ⟨_ | _ | _, _⟩ <;>
      simp only [map, Pool.update_map]

namespace HostSession

/-- One call: the same reply and the same events, and the picture of the session. -/
theorem step_map (h : family.Maps family' f g) (s : HostSession F E) (call : HostCall F) :
    (s.map f g).step family' (call.map f)
      = let (reply, next, events) := s.step family call
        (reply, next.map f g, events) := by
  cases call with
  | install factory => rfl
  | init model source =>
      -- Only the last stage, with a factory, gets to the registry.
      simp only [HostCall.map, step, init]
      cases source.read with
      | error failure => rfl
      | ok settings =>
          cases hfactory : s.factory with
          | none => simp only [map, hfactory, Option.map_none]
          | some factory =>
              simp only [map, hfactory, Option.map_some]
              rw [Registry.create_map h]
  | classify handle pixels size =>
      simp only [HostCall.map, step, classify]
      cases pixels.read with
      | error fault => rfl
      | ok data =>
          simp only [map]
          rw [Registry.classify_map h]
  | deinit handle =>
      simp only [HostCall.map, step, map, Registry.release_map]
  | liveHandles => rfl
  | initLogging filter =>
      obtain ⟨registry, factory, _ | inForce⟩ := s
      · rfl
      · rfl

/-- Any number of calls. -/
theorem run_map (h : family.Maps family' f g) (s : HostSession F E) (calls : List (HostCall F)) :
    (s.map f g).run family' (calls.map (HostCall.map f))
      = let (replies, next, events) := s.run family calls
        (replies, next.map f g, events) := by
  -- The induction is on the calls, with the session after the first one as the next.
  induction calls generalizing s with
  | nil => rfl
  | cons call calls ih =>
      simp only [List.map_cons, run, step_map h]
      rw [ih]

end HostSession

end Maps

/-! ### Notes -/

/-- A factory or an instance with the requests that were made of it. -/
structure Noted (α ρ : Type) where
  state : α
  asked : List ρ

/-- With no requests so far. -/
def Noted.fresh {α ρ : Type} (state : α) : Noted α ρ := ⟨state, []⟩

/-- Empty notes do not change what they are about. -/
@[simp] theorem Noted.state_fresh {α ρ : Type} (state : α) :
    (fresh state : Noted α ρ).state = state := rfl

/-- The same engines, which note the configurations and the frames that they are asked about. -/
def EngineFamily.noting (family : EngineFamily F E) :
    EngineFamily (Noted F EngineConfig) (Noted E Frame) where
  create factory config :=
    ((family.create factory.state config).1.map .fresh,
      ⟨(family.create factory.state config).2, factory.asked ++ [config]⟩)
  classify engine frame :=
    ((family.classify engine.state frame).1,
      ⟨(family.classify engine.state frame).2, engine.asked ++ [frame]⟩)

/-- The requests of a call: the configurations that the installed factory was asked about, and
the frames that the instance behind each reference was asked about, in order. -/
structure Asked where
  factory : List EngineConfig
  instances : Nat → List Frame

namespace Asked

/-- No request. -/
def nothing : Asked := ⟨[], fun _ => []⟩

/-- The factory is asked once, and no instance is. -/
def once (config : EngineConfig) : Asked := ⟨[config], fun _ => []⟩

/-- One instance is asked once; no other instance is, and the factory is not. -/
def onceOf (ref : Nat) (frame : Frame) : Asked :=
  ⟨[], fun other => if ref = other then [frame] else []⟩

end Asked

/-- Without the notes the engines are what they were. -/
theorem EngineFamily.noting_maps (family : EngineFamily F E) :
    family.noting.Maps family Noted.state Noted.state where
  create factory config := by
    refine Prod.ext ?_ rfl
    show (family.create factory.state config).1
      = ((family.create factory.state config).1.map _).map Noted.state
    cases (family.create factory.state config).1 <;> rfl
  classify engine frame := rfl

namespace HostSession

variable (family : EngineFamily F E)

/-- The session with empty notes. -/
def noted (s : HostSession F E) : HostSession (Noted F EngineConfig) (Noted E Frame) :=
  s.map .fresh .fresh

/-- The call, with empty notes of a factory that it installs. -/
def notedCall (call : HostCall F) : HostCall (Noted F EngineConfig) :=
  call.map .fresh

/-- The notes in a session. -/
def notes (s : HostSession (Noted F EngineConfig) (Noted E Frame)) : Asked :=
  ⟨(s.factory.map Noted.asked).getD [],
    fun ref => ((s.registry.pool.engine? ref).map Noted.asked).getD []⟩

/-- The requests that a call makes of the engines: the notes after it, if there were none
before. (No call asks an instance and lets go of it, so no notes are lost.) -/
def asked (s : HostSession F E) (call : HostCall F) : Asked :=
  (s.noted.step family.noting (notedCall call)).2.1.notes

/-! ### Notes change nothing -/

/-- Taking the notes away again leaves the session. -/
theorem map_noted (s : HostSession F E) : s.noted.map Noted.state Noted.state = s := by
  obtain ⟨⟨next, entries, ⟨places⟩⟩, factory, filter⟩ := s
  -- Place by place, as the owners are kept with the instances.
  have hplaces : (places.map (Option.map fun tenant =>
        (⟨.fresh tenant.engine, tenant.owners⟩ : Tenant (Noted E Frame)))).map
      (Option.map fun tenant => (⟨tenant.engine.state, tenant.owners⟩ : Tenant E)) = places := by
    rw [List.map_map]
    refine (List.map_congr_left fun place _ => ?_).trans (List.map_id places)
    cases place <;> rfl
  cases factory with
  | none => simp only [noted, map, Registry.map, Pool.map, hplaces, Option.map_none]
  | some factory =>
      simp only [noted, map, Registry.map, Pool.map, hplaces, Option.map_some, Noted.state_fresh]

/-- Taking them away from a call leaves the call. -/
theorem map_notedCall (call : HostCall F) : (notedCall call).map Noted.state = call := by
  cases call <;> rfl

/-- A run whose engines take notes has the replies, the events and, but for the notes, the
session of the run itself. -/
theorem run_noting (s : HostSession F E) (calls : List (HostCall F)) :
    let (replies, next, events) := s.noted.run family.noting (calls.map notedCall)
    (replies, next.map Noted.state Noted.state, events) = s.run family calls := by
  have h := run_map family.noting_maps s.noted (calls.map notedCall)
  have hcalls : calls.map (HostCall.map Noted.state ∘ notedCall) = calls :=
    (List.map_congr_left fun call _ => map_notedCall call).trans (List.map_id calls)
  rw [map_noted, List.map_map, hcalls] at h
  exact h.symm

/-! ### The requests of each call -/

/-- Empty notes hold nothing. -/
theorem instances_noted (r : Registry E) (ref : Nat) :
    (((r.map (Noted.fresh : E → Noted E Frame)).pool.engine? ref).map Noted.asked).getD []
      = [] := by
  show (((r.pool.map _).engine? ref).map Noted.asked).getD [] = []
  rw [Pool.engine?_map]
  cases r.pool.engine? ref <;> rfl

/-- A session with empty notes has no requests in them. -/
theorem notes_noted (s : HostSession F E) : s.noted.notes = .nothing := by
  simp only [notes, Asked.nothing, Asked.mk.injEq]
  refine ⟨?_, funext (instances_noted s.registry)⟩
  show ((s.factory.map _).map Noted.asked).getD [] = []
  cases s.factory <;> rfl

/-- An init asks the installed factory once, about the settings and the model, or nobody. -/
theorem asked_init (s : HostSession F E) (model : ModelRegion) (source : SettingsSource) :
    s.asked family (.init model source)
      = match s.reached? source with
        | some (settings, _) => .once (settings.engineConfig model)
        | none => .nothing := by
  show (s.noted.init family.noting model source).2.1.notes = _
  -- The notes are looked at after each end of the call.
  simp only [init, reached?]
  cases source.read with
  | error failure => exact notes_noted s
  | ok settings =>
      cases hfactory : s.factory with
      | none =>
          have hnone : s.noted.factory = none := by
            simp only [noted, map, hfactory, Option.map_none]
          simp only [hnone]
          exact notes_noted s
      | some factory =>
          have hsome : s.noted.factory = some (.fresh factory) := by
            simp only [noted, map, hfactory, Option.map_some]
          simp only [hsome, Registry.create, Classifier.create, EngineFamily.noting,
            Noted.state_fresh]
          cases (family.create factory (settings.engineConfig model)).1 with
          | ok engine =>
              simp only [Outcome.map, noted, map, Registry.insert_map]
              simp only [notes, Asked.once, Asked.mk.injEq]
              exact ⟨rfl, funext (instances_noted _)⟩
          | error status =>
              simp only [Outcome.map, notes, Asked.once, Asked.mk.injEq]
              exact ⟨rfl, funext (instances_noted s.registry)⟩
          | panic p =>
              simp only [Outcome.map, notes, Asked.once, Asked.mk.injEq]
              exact ⟨rfl, funext (instances_noted s.registry)⟩

/-- A classify asks the instance behind the handle once, about the bytes of the buffer and the
declared size, or nobody. -/
theorem asked_classify (s : HostSession F E) (handle : UInt64) (pixels : HostPixels)
    (size : Dimension) :
    s.asked family (.classify handle pixels size)
      = match pixels.read, s.registry.find handle with
        | .ok data, some (ref, _) => .onceOf ref { data, dimension := size }
        | _, _ => .nothing := by
  show (s.noted.classify family.noting handle pixels size).2.1.notes = _
  have hfind : s.noted.registry.find handle = (s.registry.find handle).map _ :=
    Registry.find_map _ s.registry handle
  simp only [classify, Registry.classify, hfind]
  cases pixels.read with
  | error fault => exact notes_noted s
  | ok data =>
      cases hfound : s.registry.find handle with
      | none => exact notes_noted s
      | some found =>
          obtain ⟨ref, engine⟩ := found
          rw [hfound] at hfind
          have hold := (Registry.find_eq_some_iff.mp hfind).2
          simp only [Option.map_some, Classifier.classify, EngineFamily.noting, Noted.state_fresh]
          -- However the call ends, it leaves the frame with the instance and nowhere else.
          have hnotes (instance' : Noted E Frame)
              (h : instance'.asked = [{ data, dimension := size }]) :
              notes { s.noted with registry := { s.noted.registry with
                  pool := s.noted.registry.pool.update ref instance' } }
                = .onceOf ref { data, dimension := size } := by
            simp only [notes, Asked.onceOf, Asked.mk.injEq]
            refine ⟨congrArg Asked.factory (notes_noted s), funext fun other => ?_⟩
            rw [Pool.engine?_update hold]
            split
            · exact h
            · exact congrFun (congrArg Asked.instances (notes_noted s)) other
          cases (family.classify engine { data, dimension := size }).1 <;> exact hnotes _ rfl

/-- The other calls ask nobody. -/
theorem asked_of_other {s : HostSession F E} {call : HostCall F}
    (hinit : ∀ model source, call ≠ .init model source)
    (hclassify : ∀ handle pixels size, call ≠ .classify handle pixels size) :
    s.asked family call = .nothing := by
  -- Nothing is noted of a factory that was not asked, nor of the instances of a picture.
  have hempty {next : HostSession (Noted F EngineConfig) (Noted E Frame)} {r : Registry E}
      (hfactory : next.factory = s.noted.factory)
      (hregistry : next.registry = r.map .fresh) :
      next.notes = .nothing := by
    simp only [notes, Asked.nothing, Asked.mk.injEq, hfactory, hregistry]
    exact ⟨congrArg Asked.factory (notes_noted s), funext (instances_noted r)⟩
  cases call with
  | install factory =>
      simp only [asked, notedCall, HostCall.map, step, notes, Asked.nothing, Asked.mk.injEq]
      exact ⟨rfl, funext (instances_noted s.registry)⟩
  | init model source => exact absurd rfl (hinit model source)
  | classify handle pixels size => exact absurd rfl (hclassify handle pixels size)
  -- Letting go of an instance asks it nothing.
  | deinit handle =>
      refine hempty (r := (s.registry.release handle).2.1) rfl ?_
      have hrelease := Registry.release_map (Noted.fresh : E → Noted E Frame) s.registry handle
      exact congrArg (·.2.1) hrelease
  | liveHandles => exact notes_noted s
  | initLogging filter =>
      have hkept : (s.noted.initLogging filter).2.factory = s.noted.factory
          ∧ (s.noted.initLogging filter).2.registry = s.noted.registry := by
        unfold initLogging
        split <;> exact ⟨rfl, rfl⟩
      exact hempty (r := s.registry) hkept.1 hkept.2

end HostSession

end ClassifierBridge
