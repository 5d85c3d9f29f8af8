import ClassifierBridge.Engines.Sample
import ClassifierBridge.Proofs.Host.Run

/-!
# `ClassifierBridge.Proofs.Host.Panic`: a panic is one more way to refuse

An engine may break off at any call. `EngineFamily.reporting` has the same engines,
except that they report what they would have broken off with: an internal status
whose message starts with `engine panicked: `. A host cannot tell the two families
apart. No call of a session is left without a reply either, and an instance that
broke off is still there, for the next classify as for the release of its handle.

* `settle_create_reporting`, `settle_classify_reporting`: one request to an engine.
* `step_reporting`: one call of the host.
* `run_reporting`: a whole run.
* `step_of_create_panic`, `step_of_instance?`: a panic ends in `settle`, which makes a
  status of it.
* `replies_reporting`: a whole run, and what a host can do after a panic.
-/

set_option autoImplicit false

namespace ClassifierBridge

/-- The end of a call whose panic, if there is one, is reported as a status. -/
def Outcome.reported {α : Type} : Outcome EngineStatus α → Outcome EngineStatus α
  | .ok value => .ok value
  | .error status => .error status
  | .panic p => .error ⟨.internal, "engine panicked: " ++ p.reason⟩

/-- The same engines, which report a panic instead of breaking off. What a call makes
of a factory or an instance is the same. -/
def EngineFamily.reporting {F E : Type} (family : EngineFamily F E) : EngineFamily F E where
  create factory config :=
    ((family.create factory config).1.reported, (family.create factory config).2)
  classify engine frame :=
    ((family.classify engine frame).1.reported, (family.classify engine frame).2)

namespace HostSession

variable {F E : Type} (family : EngineFamily F E)

/-! ### One request to an engine -/

/-- The making of an instance: the same result for the host, the same factory and the
same registry. -/
theorem settle_create_reporting (r : Registry E) (factory : F) (settings : Settings)
    (model : ModelRegion) :
    (settle .initialization (r.create family.reporting factory settings model).1).1
        = (settle .initialization (r.create family factory settings model).1).1
      ∧ (r.create family.reporting factory settings model).2.1
        = (r.create family factory settings model).2.1
      ∧ (r.create family.reporting factory settings model).2.2.1
        = (r.create family factory settings model).2.2.1 := by
  simp only [Registry.create, Classifier.create, EngineFamily.reporting]
  -- Only a panic takes another way, and the two ways end in the same failure.
  cases family.create factory (settings.engineConfig model) with
  | mk outcome factory' =>
      cases outcome with
      | ok engine => exact ⟨rfl, rfl, rfl⟩
      | error status => exact ⟨rfl, rfl, rfl⟩
      | panic p => exact ⟨rfl, rfl, rfl⟩

/-- A classify: the same result for the host and the same registry. -/
theorem settle_classify_reporting (r : Registry E) (handle : UInt64) (frame : Frame) :
    (settle .classification (r.classify family.reporting handle frame).1).1
        = (settle .classification (r.classify family handle frame).1).1
      ∧ (r.classify family.reporting handle frame).2.1
        = (r.classify family handle frame).2.1 := by
  simp only [Registry.classify, Classifier.classify, EngineFamily.reporting]
  cases r.find handle with
  | none => exact ⟨rfl, rfl⟩
  -- The instance is what the request made of it, and only the outcome takes another way.
  | some found =>
      obtain ⟨ref, engine⟩ := found
      simp only
      cases family.classify engine frame with
      | mk outcome engine' =>
          cases outcome with
          | ok answer => exact ⟨rfl, rfl⟩
          | error status => exact ⟨rfl, rfl⟩
          | panic p => exact ⟨rfl, rfl⟩

/-! ### One call of the host -/

/-- An init: the same result, and the same session after it. -/
theorem init_reporting (s : HostSession F E) (model : ModelRegion) (source : SettingsSource) :
    (s.init family.reporting model source).1 = (s.init family model source).1
      ∧ (s.init family.reporting model source).2.1 = (s.init family model source).2.1 := by
  unfold init
  cases source.read with
  | error failure => exact ⟨rfl, rfl⟩
  | ok settings =>
      cases s.factory with
      | none => exact ⟨rfl, rfl⟩
      | some factory =>
          obtain ⟨hresult, hfactory, hregistry⟩ :=
            settle_create_reporting family s.registry factory settings model
          refine ⟨hresult, ?_⟩
          show { s with
              registry := (s.registry.create family.reporting factory settings model).2.2.1
              factory := some (s.registry.create family.reporting factory settings model).2.1 }
            = { s with
              registry := (s.registry.create family factory settings model).2.2.1
              factory := some (s.registry.create family factory settings model).2.1 }
          rw [hfactory, hregistry]

/-- A classify: the same result, and the same session after it. -/
theorem classify_reporting (s : HostSession F E) (handle : UInt64) (pixels : HostPixels)
    (size : Dimension) :
    (s.classify family.reporting handle pixels size).1 = (s.classify family handle pixels size).1
      ∧ (s.classify family.reporting handle pixels size).2.1
        = (s.classify family handle pixels size).2.1 := by
  unfold classify
  cases pixels.read with
  | error fault => exact ⟨rfl, rfl⟩
  | ok data =>
      obtain ⟨hresult, hregistry⟩ :=
        settle_classify_reporting family s.registry handle { data, dimension := size }
      exact ⟨hresult, congrArg (fun registry => { s with registry }) hregistry⟩

/-- One call: the same reply, and the same session after it. -/
theorem step_reporting (s : HostSession F E) (call : HostCall F) :
    (s.step family.reporting call).1 = (s.step family call).1
      ∧ (s.step family.reporting call).2.1 = (s.step family call).2.1 := by
  cases call with
  | install factory => exact ⟨rfl, rfl⟩
  | init model source =>
      obtain ⟨hresult, hsession⟩ := init_reporting family s model source
      refine ⟨?_, hsession⟩
      show HostReply.init (InitReply.ofResult (s.init family.reporting model source).1)
        = .init (InitReply.ofResult (s.init family model source).1)
      rw [hresult]
  | classify handle pixels size =>
      obtain ⟨hresult, hsession⟩ := classify_reporting family s handle pixels size
      refine ⟨?_, hsession⟩
      rw [step_classify, step_classify, hresult]
  -- The calls below do not reach an engine.
  | deinit handle => exact ⟨rfl, rfl⟩
  | liveHandles => exact ⟨rfl, rfl⟩
  | initLogging filter => exact ⟨rfl, rfl⟩

/-! ### A whole run -/

/-- Any number of calls: the same replies, and the same session after them. -/
theorem run_reporting (s : HostSession F E) (calls : List (HostCall F)) :
    s.replies family.reporting calls = s.replies family calls
      ∧ s.after family.reporting calls = s.after family calls := by
  -- Equal sessions before a call are equal after it, so the induction is on the calls alone.
  induction calls generalizing s with
  | nil => exact ⟨rfl, rfl⟩
  | cons call calls ih =>
      obtain ⟨hreply, hsession⟩ := step_reporting family s call
      rw [replies_cons, replies_cons, after_cons, after_cons, hreply, hsession]
      obtain ⟨hreplies, hafter⟩ := ih (s.step family call).2.1
      exact ⟨by rw [hreplies], hafter⟩

/-! ### After a panic -/

/-- An init whose factory breaks off is answered like one that the factory refuses. It
leaves the registry alone, and the factory stays installed. -/
theorem step_of_create_panic {s : HostSession F E} {source : SettingsSource}
    {settings : Settings} {factory factory' : F} {p : Panic} (model : ModelRegion)
    (hread : source.read = .ok settings) (hfactory : s.factory = some factory)
    (hpanic : family.create factory (settings.engineConfig model) = (.panic p, factory')) :
    (s.step family (.init model source)).1
        = .init (InitReply.ofResult (.error (.initialization (panicStatus p))))
      ∧ (s.step family (.init model source)).2.1 = { s with factory := some factory' } := by
  have hcreate : s.registry.create family factory settings model
      = (.panic p, factory', s.registry, [Event.creating model settings.maxResults
          settings.threshold]) := by
    simp only [Registry.create, Classifier.create, hpanic]
  have hinit : s.init family model source
      = (.error (.initialization (panicStatus p)), { s with factory := some factory' },
          [Event.creating model settings.maxResults settings.threshold,
            .enginePanicked p.reason]) := by
    simp only [init, hread, hfactory, hcreate]
    rfl
  unfold step
  dsimp only
  rw [hinit]
  exact ⟨rfl, rfl⟩

/-- A classify on a handle with an instance asks this instance, and the handle keeps
what became of it, however the call ended. -/
theorem step_of_instance? {s : HostSession F E} {handle : UInt64} {engine : E}
    {pixels : HostPixels} {data : ByteArray} (size : Dimension)
    (hengine : s.registry.instance? handle = some engine) (hread : pixels.read = .ok data) :
    (s.step family (.classify handle pixels size)).1
        = .classify (ClassifyReply.ofResult
            (settle .classification
              (Classifier.classify family engine { data, dimension := size }).1).1)
      ∧ (s.step family (.classify handle pixels size)).2.1.registry.instance? handle
        = some (Classifier.classify family engine { data, dimension := size }).2.1 := by
  rw [step_classify]
  show _ ∧ (s.classify family handle pixels size).2.1.registry.instance? handle = _
  rcases classify_cases family s handle pixels size with
    ⟨_, herror, -⟩ | ⟨_, -, hnone, -⟩ | ⟨data', ref, found, hread', hfind, hresult, hstate⟩
  · rw [hread] at herror
    cases herror
  · rw [Registry.instance?, hnone] at hengine
    cases hengine
  · rw [hread] at hread'
    cases hread'
    rw [Registry.instance?, hfind] at hengine
    cases hengine
    -- The reference of the handle stays, and what became of the instance is put in its place.
    obtain ⟨href, hold⟩ := Registry.find_eq_some_iff.mp hfind
    refine ⟨by rw [hresult], ?_⟩
    rw [hstate, Registry.instance?_eq_bind]
    show (s.registry.ref? handle).bind _ = _
    rw [href, Option.bind_some, Pool.engine?_update hold, if_pos rfl]

/-- A handle with an instance is live. -/
theorem contains_of_instance? {r : Registry E} {handle : UInt64} {engine : E}
    (hengine : r.instance? handle = some engine) : r.contains handle = true := by
  rw [Registry.instance?_eq_bind] at hengine
  obtain ⟨ref, href, -⟩ := Option.bind_eq_some_iff.mp hengine
  rw [Registry.contains, href]
  rfl

/-- A released handle is not live. -/
theorem contains_deinit (s : HostSession F E) (handle : UInt64) :
    (s.step family (.deinit handle)).2.1.registry.contains handle = false := by
  show ((s.registry.release handle).2.1.ref? handle).isSome = false
  rw [Registry.ref?_release, if_pos rfl]
  rfl

/-- A host cannot tell an engine that breaks off from one that reports an internal
status with the same reason. In every run the two get the same replies, and after
every number of calls the session is the same: the handles that are live, the next
handle, the installed factory and all instances.

A panic ends in `settle`, the only way from an engine to a reply, so every call has a
reply and none passes the panic on. An init whose factory broke off is answered with the
internal status and changes nothing but the factory's own state. So is a classify whose
engine broke off, and the handle still leads to its instance: it can be classified on,
and it can be released. -/
theorem replies_reporting (s : HostSession F E) (calls : List (HostCall F)) :
    s.replies family.reporting calls = s.replies family calls
      ∧ s.after family.reporting calls = s.after family calls
      ∧ (s.replies family calls).length = calls.length
      ∧ (∀ (model : ModelRegion) (source : SettingsSource) (settings : Settings)
          (factory factory' : F) (p : Panic), source.read = .ok settings →
        (s.after family calls).factory = some factory →
        family.create factory (settings.engineConfig model) = (.panic p, factory') →
        let (reply, t, _) := (s.after family calls).step family (.init model source)
        reply = .init (InitReply.ofResult
            (.error (.initialization ⟨.internal, "engine panicked: " ++ p.reason⟩)))
          ∧ t = { s.after family calls with factory := some factory' })
      ∧ ∀ (handle : UInt64) (engine engine' : E) (pixels : HostPixels) (size : Dimension)
          (data : ByteArray) (p : Panic),
        (s.after family calls).registry.instance? handle = some engine →
        pixels.read = .ok data →
        family.classify engine { data, dimension := size } = (.panic p, engine') →
        let (reply, t, _) := (s.after family calls).step family (.classify handle pixels size)
        reply = .classify (ClassifyReply.ofFailure
            (.classification ⟨.internal, "engine panicked: " ++ p.reason⟩))
          ∧ t.registry.contains handle = true
          ∧ (∀ (pixels' : HostPixels) (size' : Dimension) (data' : ByteArray),
            pixels'.read = .ok data' →
            (t.step family (.classify handle pixels' size')).1
              = .classify (ClassifyReply.ofResult (settle .classification
                  (Classifier.classify family engine' { data := data', dimension := size' }).1).1))
          ∧ (t.step family (.deinit handle)).2.1.registry.contains handle = false := by
  obtain ⟨hreplies, hafter⟩ := run_reporting family s calls
  refine ⟨hreplies, hafter, length_replies family s calls, ?_, ?_⟩
  · intro model source settings factory factory' p hread hfactory hpanic
    exact step_of_create_panic family model hread hfactory hpanic
  intro handle engine engine' pixels size data p hengine hread hpanic
  obtain ⟨hreply, hinstance⟩ := step_of_instance? family size hengine hread
  -- The classifier passes the panic on, with the instance that it left.
  have hcall : Classifier.classify family engine { data, dimension := size }
      = (.panic p, engine', []) := by
    rw [Classifier.classify, hpanic]
  rw [hcall] at hreply hinstance
  exact ⟨hreply, contains_of_instance? hinstance,
    fun pixels' size' data' hread' => (step_of_instance? family size' hinstance hread').1,
    contains_deinit family _ handle⟩

/-- An instance that breaks off at its first call and answers the second, and a factory
that breaks off with something that is no text. -/
theorem replies_reporting_script :
    let script : Script := ⟨.ok (), [.panic (.text "out of memory"), .ok {}]⟩
    let broken : Script := ⟨.panic .other, []⟩
    let calls : List (HostCall SampleFactory) :=
      [.install (.script script), .init {} (.structure none)]
    let s : HostSession SampleFactory SampleEngine :=
      ({} : HostSession _ _).after sampleFamily calls
    let classify : HostCall SampleFactory := .classify 1 ⟨none, 0⟩ ⟨0, 0⟩
    let t : HostSession SampleFactory SampleEngine :=
      ({} : HostSession _ _).after sampleFamily (calls ++ [.install (.script broken)])
    (s.registry.instance? 1 = some (.script ⟨script, 0⟩)
        ∧ sampleFamily.classify (.script ⟨script, 0⟩) { data := .empty, dimension := ⟨0, 0⟩ }
          = (.panic (.text "out of memory"), .script ⟨script, 1⟩)
        ∧ t.factory = some (.script broken)
        ∧ sampleFamily.create (.script broken) (({} : Settings).engineConfig {})
          = (.panic .other, .script broken))
      ∧ (s.step sampleFamily classify).1 = .classify (ClassifyReply.ofFailure
          (.classification ⟨.internal, "engine panicked: out of memory"⟩))
      ∧ ((s.step sampleFamily classify).2.1.step sampleFamily classify).1
        = .classify (ClassifyReply.ofRecords [])
      ∧ (t.step sampleFamily (.init {} (.structure none))).1 = .init (InitReply.ofResult
          (.error (.initialization ⟨.internal, "engine panicked: unknown panic"⟩))) := by
  intro script broken calls s classify t
  have hengine : s.registry.instance? 1 = some (.script ⟨script, 0⟩) := rfl
  have hpanic : sampleFamily.classify (.script ⟨script, 0⟩) { data := .empty, dimension := ⟨0, 0⟩ }
      = (.panic (.text "out of memory"), .script ⟨script, 1⟩) := rfl
  have hfactory : t.factory = some (.script broken) := rfl
  have hbroken : sampleFamily.create (.script broken) (({} : Settings).engineConfig {})
      = (.panic .other, .script broken) := rfl
  have hread : HostPixels.read ⟨none, 0⟩ = .ok .empty := rfl
  obtain ⟨-, -, -, -, hafter⟩ := replies_reporting sampleFamily ({} : HostSession _ _) calls
  obtain ⟨hreply, -, hnext, -⟩ := hafter 1 _ _ _ ⟨0, 0⟩ _ _ hengine hread hpanic
  obtain ⟨-, -, -, hinit, -⟩ := replies_reporting sampleFamily ({} : HostSession _ _)
    (calls ++ [.install (.script broken)])
  obtain ⟨hrefused, -⟩ := hinit {} (.structure none) {} _ _ _ rfl hfactory hbroken
  exact ⟨⟨hengine, hpanic, hfactory, hbroken⟩, hreply, hnext ⟨none, 0⟩ ⟨0, 0⟩ .empty hread,
    hrefused⟩

end HostSession

end ClassifierBridge
