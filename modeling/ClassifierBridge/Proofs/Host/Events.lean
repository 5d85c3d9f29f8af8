import ClassifierBridge.Proofs.Host.Run

/-!
# `ClassifierBridge.Proofs.Host.Events`: what one call writes in the log

The events of a call come from three parts of the bridge, and each way in which a call can
end skips some of them. Here they are put together, once for every later proof: the events
of a call as a list, in terms of what the call finds and what the engine answers.

* `reached?`, `answer?`: what an init and a classify find, before anything happens.
* `step_init_of_reached?`, `step_init_of_not_reached`: an init writes two events or none.
* `events_classify`, `events_classify_of_unreadable`: a classify writes two events or none.
* `events_deinit`: a deinit writes one.
* `events_append`: the events of a run in two parts.
-/

set_option autoImplicit false

namespace ClassifierBridge

/-- The handle that the making of an instance uses up. -/
def Outcome.issued? {E : Type} (next : UInt64) : Outcome EngineStatus E → Option UInt64
  | .ok _ => some next
  | .error _ => none
  | .panic _ => none

namespace Event

/-- How the making of an instance ended. -/
def ofCreation {E : Type} (next : UInt64) : Outcome EngineStatus E → Event
  | .ok _ => .registered next
  | .error status => .creationFailed status.code
  | .panic p => .enginePanicked p.reason

/-- How a classify with a readable buffer ended; without an answer the handle led to no
instance. -/
def ofAnswer (handle : UInt64) (size : Dimension) :
    Option (Outcome EngineStatus Classification) → Event
  | none => .useOfUnknown handle
  | some (.ok answer) => .classified size answer.groups.length
  | some (.error status) => .classificationFailed size status.code
  | some (.panic p) => .enginePanicked p.reason

end Event

namespace HostSession

variable {F E : Type} (family : EngineFamily F E)

/-! ### Runs -/

/-- The events of some calls. -/
def events (s : HostSession F E) (calls : List (HostCall F)) : List Event :=
  (s.run family calls).2.2

/-- No calls, no events. -/
theorem events_nil (s : HostSession F E) : s.events family [] = [] := rfl

/-- The events of the first call come first. -/
theorem events_cons (s : HostSession F E) (call : HostCall F) (calls : List (HostCall F)) :
    s.events family (call :: calls)
      = (s.step family call).2.2 ++ (s.step family call).2.1.events family calls := rfl

/-- Calls behind others write their events behind those of the others. -/
theorem events_append (s : HostSession F E) (calls more : List (HostCall F)) :
    s.events family (calls ++ more)
      = s.events family calls ++ (s.after family calls).events family more := by
  -- The induction is on the calls, and the session moves on with each of them.
  induction calls generalizing s with
  | nil => rfl
  | cons call calls ih =>
      rw [List.cons_append, events_cons, events_cons, ih, after_cons, List.append_assoc]

/-- One more call writes what it writes in the session that the others have left. -/
theorem events_concat (s : HostSession F E) (calls : List (HostCall F)) (call : HostCall F) :
    s.events family (calls ++ [call])
      = s.events family calls ++ ((s.after family calls).step family call).2.2 := by
  rw [events_append, events_cons, events_nil, List.append_nil]

/-! ### What a call finds -/

/-- The settings and the factory of an init that gets as far as the factory. -/
def reached? (s : HostSession F E) (source : SettingsSource) : Option (Settings × F) :=
  match source.read, s.factory with
  | .ok settings, some factory => some (settings, factory)
  | _, _ => none

/-- What the instance behind a handle answers, if there is one. -/
def answer? (s : HostSession F E) (handle : UInt64) (frame : Frame) :
    Option (Outcome EngineStatus Classification) :=
  (s.registry.instance? handle).map fun engine => (family.classify engine frame).1

/-! ### The events of one call -/

/-- An init that does not get as far as the factory issues no handle and writes nothing. -/
theorem step_init_of_not_reached {s : HostSession F E} {source : SettingsSource}
    (h : s.reached? source = none) (model : ModelRegion) :
    (s.step family (.init model source)).1.issued? = none
      ∧ (s.step family (.init model source)).2.2 = [] := by
  show (HostReply.init (InitReply.ofResult (s.init family model source).1)).issued? = none
    ∧ (s.init family model source).2.2 = []
  rw [issued?_init]
  unfold init
  unfold reached? at h
  cases hsource : source.read with
  | error failure => exact ⟨rfl, rfl⟩
  | ok settings =>
      cases hfactory : s.factory with
      | none => exact ⟨rfl, rfl⟩
      | some factory =>
          rw [hsource, hfactory] at h
          cases h

/-- An init that gets as far as the factory asks it once, and its answer decides about the
handle and about the second event. -/
theorem step_init_of_reached? {s : HostSession F E} {source : SettingsSource}
    {settings : Settings} {factory : F} (h : s.reached? source = some (settings, factory))
    (model : ModelRegion) :
    let made := (family.create factory (settings.engineConfig model)).1
    (s.step family (.init model source)).1.issued? = made.issued? s.registry.next
      ∧ (s.step family (.init model source)).2.2
        = [.creating model settings.maxResults settings.threshold,
          .ofCreation s.registry.next made] := by
  show (HostReply.init (InitReply.ofResult (s.init family model source).1)).issued? = _
    ∧ (s.init family model source).2.2 = _
  rw [issued?_init]
  unfold reached? at h
  split at h
  · next settings' factory' hsource hfactory =>
      cases h
      unfold init
      rw [hsource, hfactory]
      simp only [Registry.create, Classifier.create]
      -- The reply and the second event are both made of the one answer.
      rcases family.create factory (settings.engineConfig model) with ⟨_ | _ | _, _⟩ <;>
      exact ⟨rfl, rfl⟩
  · cases h

/-- A classify whose buffer cannot be read writes nothing. -/
theorem events_classify_of_unreadable (s : HostSession F E) (handle : UInt64)
    {pixels : HostPixels} {fault : ArgumentFault} (size : Dimension)
    (hread : pixels.read = .error fault) :
    (s.step family (.classify handle pixels size)).2.2 = [] := by
  show (s.classify family handle pixels size).2.2 = []
  unfold classify
  rw [hread]

/-- A classify whose buffer can be read writes that it was called and how it ended. -/
theorem events_classify (s : HostSession F E) (handle : UInt64) {pixels : HostPixels}
    {data : ByteArray} (size : Dimension) (hread : pixels.read = .ok data) :
    (s.step family (.classify handle pixels size)).2.2
      = [.classifyCalled handle size data.size,
        .ofAnswer handle size (s.answer? family handle { data, dimension := size })] := by
  show (s.classify family handle pixels size).2.2 = _
  unfold classify answer? Registry.instance?
  rw [hread]
  simp only [Registry.classify]
  cases s.registry.find handle with
  | none => rfl
  | some found =>
      simp only [Classifier.classify, Option.map_some]
      rcases family.classify found.2 { data, dimension := size } with ⟨answer | _ | _, _⟩
      -- The event counts the records, of which there is one for each group.
      · simp only [Event.ofAnswer, ← answer.length_records]
        rfl
      · rfl
      · rfl

/-- A deinit writes whether there was something to release. -/
theorem events_deinit (s : HostSession F E) (handle : UInt64) :
    (s.step family (.deinit handle)).2.2
      = [if s.registry.contains handle then .released handle else .releaseOfUnknown handle] := by
  show (s.registry.release handle).2.2 = _
  unfold Registry.release Registry.contains
  cases s.registry.ref? handle with
  | none => rfl
  | some ref => rfl

end HostSession

end ClassifierBridge
