import ClassifierBridge.Proofs.Host.Asked
import ClassifierBridge.Proofs.Host.Settings

/-!
# `ClassifierBridge.Proofs.Host.Init`: an init is decided by its first failing stage

An init has three stages: its settings are read, then the installed factory is looked up,
then this factory is asked for an instance. Each can fail on its own, and the first that
fails decides. `SettingsSource.Gives` is the first stage without the readers, in terms of
what the host handed over; `HostSession.InitEnds` is the whole call, one case for each end,
with the session that it leaves and the requests that it makes.

Which factory is installed is a matter of the calls before: the last one that came with an
`install`, as the inits since then have left it.

* `gives_read`: the first stage.
* `factory_after`, `factory_after_installedLast`: the second stage, by induction on the calls
  (`factory_step` is one of them).
* `initEnds`: one init, in any session that shares no instance between handles.
* `init_by_stage`: an init after any calls.
-/

set_option autoImplicit false

namespace ClassifierBridge

/-! ### The settings -/

/-- What comes of the settings of an init. A null pointer stands for the defaults, a structure
for the settings that it describes (if its arrays hold what they declare), and a JSON text
for what it is read as. The failures are those of an argument of the host, in the words for
the first fault, and for a text that is refused those of the configuration. -/
inductive SettingsSource.Gives : SettingsSource → Except Failure Settings → Prop where
  | defaults :
      Gives (.structure none)
        (.ok { locale := "en", maxResults := -1, threshold := none, allow := [], deny := [] })
  | described {h : HostSettings} {o : Settings} (hwellFormed : h.WellFormed)
      (hdescribes : h.allow.Holds → h.deny.Holds → h.Describes o) :
      Gives (.structure (some h)) (.ok o)
  | malformed {h : HostSettings} {fault : ArgumentFault} (hmalformed : ¬ h.WellFormed)
      (hfirst : h.FirstFault fault.message) :
      Gives (.structure (some h)) (.error (.invalidArgument fault))
  | nullText {fault : ArgumentFault} (hwords : fault.message = "options json: null pointer") :
      Gives (.document none) (.error (.invalidArgument fault))
  | notUtf8 {text : HostText} {fault : ArgumentFault} (hfaulty : text.HasFault .notUtf8)
      (hwords : fault.message = "options json: invalid UTF-8") :
      Gives (.document text) (.error (.invalidArgument fault))
  | rejected {text : HostText} {json : String} {error : ConfigError} (hspells : text.Spells json)
      (hrefused : Settings.ofJson json = .error error) :
      Gives (.document text) (.error (.config error))
  | accepted {text : HostText} {json : String} {o : Settings} (hspells : text.Spells json)
      (hread : Settings.ofJson json = .ok o) :
      Gives (.document text) (.ok o)

/-- The readers do what the host can expect of them. -/
theorem SettingsSource.gives_read (source : SettingsSource) : source.Gives source.read := by
  match source with
  | .structure none => exact .defaults
  | .structure (some h) =>
      simp only [SettingsSource.read]
      cases hread : h.read with
      | ok o =>
          exact .described (HostSettings.wellFormed_iff.mpr ⟨o, hread⟩)
            fun hallow hdeny => (HostSettings.read_eq_ok_iff hallow hdeny).mp hread
      | error fault =>
          have hfirst : h.FirstFault fault.message :=
            HostSettings.firstFault_iff.mpr ⟨fault, hread, rfl⟩
          exact .malformed hfirst.not_wellFormed hfirst
  | .document text =>
      simp only [SettingsSource.read]
      cases hread : text.read with
      | error fault =>
          have hfault := HostText.read_eq_error_iff.mp hread
          cases fault with
          -- Only a null pointer has this fault.
          | null =>
              cases hfault
              exact .nullText rfl
          | notUtf8 => exact .notUtf8 hfault rfl
      | ok json =>
          have hspells := HostText.read_eq_ok_iff.mp hread
          simp only
          cases hjson : Settings.ofJson json with
          | error error => exact .rejected hspells hjson
          | ok o => exact .accepted hspells hjson

/-- No settings fail for want of an engine. -/
theorem SettingsSource.Gives.ne_engineUnavailable {source : SettingsSource} {failure : Failure}
    (h : source.Gives (.error failure)) : failure ≠ .engineUnavailable := by
  rintro rfl
  cases h

/-! ### The installed factory -/

/-- The factory was installed in these calls, with some calls since then and no other factory
among them. -/
def InstalledLast {F : Type} (calls : List (HostCall F)) (factory : F)
    (since : List (HostCall F)) : Prop :=
  (∃ before, calls = before ++ .install factory :: since) ∧ ∀ other, .install other ∉ since

/-- Of some calls either none installs a factory or one does so last. -/
theorem exists_installedLast {F : Type} (calls : List (HostCall F)) :
    (∀ factory, .install factory ∉ calls) ∨ ∃ factory since, InstalledLast calls factory since := by
  induction calls with
  | nil => exact .inl fun factory => List.not_mem_nil
  | cons call calls ih =>
      -- The first call matters only if no later one installs a factory.
      rcases ih with hnever | ⟨factory, since, ⟨before, rfl⟩, hlast⟩
      · by_cases hinstall : ∃ factory, call = .install factory
        · obtain ⟨factory, rfl⟩ := hinstall
          exact .inr ⟨factory, calls, ⟨[], rfl⟩, hnever⟩
        · refine .inl fun factory hmem => ?_
          rcases List.mem_cons.mp hmem with rfl | hmem
          · exact hinstall ⟨factory, rfl⟩
          · exact hnever factory hmem
      · exact .inr ⟨factory, since, ⟨call :: before, rfl⟩, hlast⟩

namespace HostSession

variable {F E : Type} (family : EngineFamily F E)

/-- While no factory is installed, the installed one is asked as often as there is an init
with settings. -/
theorem factory_after {s : HostSession F E} {calls : List (HostCall F)}
    (h : ∀ factory, .install factory ∉ calls) :
    (s.after family calls).factory
      = s.factory.map fun factory =>
          family.afterRequests factory (calls.filterMap HostCall.request?) := by
  -- The induction is on the calls, each with what the factory is then.
  induction calls generalizing s with
  | nil => exact Option.map_id'.symm
  | cons call calls ih =>
      have hcall : ∀ factory, call ≠ .install factory := by
        rintro factory rfl
        exact h factory List.mem_cons_self
      rw [after_cons, ih fun factory hmem => h factory (List.mem_cons_of_mem _ hmem),
        factory_step family s hcall, Option.map_map]
      congr 1
      funext factory
      simp only [Function.comp_apply, List.filterMap_cons]
      -- The first call either adds its request in front or has none.
      cases call.request? <;> rfl

/-- The factory that was installed last is the one in force, as the inits since then have left
it. -/
theorem factory_after_installedLast (s : HostSession F E) {calls since : List (HostCall F)}
    {factory : F} (h : InstalledLast calls factory since) :
    (s.after family calls).factory
      = some (family.afterRequests factory (since.filterMap HostCall.request?)) := by
  obtain ⟨⟨before, rfl⟩, hlast⟩ := h
  -- What was installed before is forgotten with the install.
  rw [after_append, after_cons, factory_after family hlast]
  rfl

/-- There is no factory if there was none before and none has been installed. -/
theorem factory_after_eq_none_iff {s : HostSession F E} (hfactory : s.factory = none)
    (calls : List (HostCall F)) :
    (s.after family calls).factory = none ↔ ∀ factory, .install factory ∉ calls := by
  constructor
  · intro hnone factory hmem
    rcases exists_installedLast calls with hnever | ⟨last, since, hlast⟩
    · exact hnever factory hmem
    · rw [factory_after_installedLast family s hlast] at hnone
      cases hnone
  · intro hnever
    rw [factory_after family hnever, hfactory, Option.map_none]

end HostSession

/-! ### The whole call -/

/-- A registry with one entry more: the next handle leads to the instance, and every other
handle where it led before. -/
structure Registry.Gains {E : Type} (r : Registry E) (engine : E) (later : Registry E) : Prop where
  here : later.instance? r.next = some engine
  others_ref : ∀ other ≠ r.next, later.ref? other = r.ref? other
  others : ∀ other ≠ r.next, later.instance? other = r.instance? other
  next : later.next = r.next + 1

/-- An instance that is inserted is gained. -/
theorem Registry.Exclusive.gains_insert {E : Type} {r : Registry E} (hr : r.Exclusive)
    (engine : E) : r.Gains engine (r.insert engine).2 where
  here := by rw [hr.instance?_insert, if_pos rfl]
  others_ref other hother := by rw [r.ref?_insert, if_neg hother]
  others other hother := by rw [hr.instance?_insert, if_neg hother]
  next := rfl

namespace HostSession

variable {F E : Type} (family : EngineFamily F E)

/-- How an init ends, given what comes of its settings: with the result, the session after it
and the requests made. Without settings, and without a factory, nothing changes and nobody is
asked. Otherwise the factory is asked once. If it refuses or breaks off, only the factory may
have changed; if there is an instance, the registry gains it under the next handle. -/
inductive InitEnds (now : HostSession F E) (model : ModelRegion) (given : Except Failure Settings) :
    Except Failure UInt64 → HostSession F E → Asked → Prop where
  | refused {failure : Failure} (hsettings : given = .error failure) :
      InitEnds now model given (.error failure) now .nothing
  | unavailable {o : Settings} (hsettings : given = .ok o) (hinstalled : now.factory = none) :
      InitEnds now model given (.error .engineUnavailable) now .nothing
  | declined {o : Settings} {factory factory' : F} {status : EngineStatus}
      (hsettings : given = .ok o) (hinstalled : now.factory = some factory)
      (hanswer : family.create factory (o.engineConfig model) = (.error status, factory')) :
      InitEnds now model given (.error (.initialization status))
        { now with factory := some factory' } (.once (o.engineConfig model))
  | brokeOff {o : Settings} {factory factory' : F} {p : Panic}
      (hsettings : given = .ok o) (hinstalled : now.factory = some factory)
      (hanswer : family.create factory (o.engineConfig model) = (.panic p, factory')) :
      InitEnds now model given
        (.error (.initialization ⟨.internal, "engine panicked: " ++ p.reason⟩))
        { now with factory := some factory' } (.once (o.engineConfig model))
  | made {o : Settings} {factory factory' : F} {engine : E} {registry : Registry E}
      (hsettings : given = .ok o) (hinstalled : now.factory = some factory)
      (hanswer : family.create factory (o.engineConfig model) = (.ok engine, factory'))
      (hgains : now.registry.Gains engine registry) :
      InitEnds now model given (.ok now.registry.next)
        { now with registry, factory := some factory' } (.once (o.engineConfig model))

/-- One init. -/
theorem initEnds {s : HostSession F E} (hs : s.registry.Exclusive) (model : ModelRegion)
    (source : SettingsSource) :
    InitEnds family s model source.read (s.init family model source).1
      (s.init family model source).2.1 (s.asked family (.init model source)) := by
  rw [asked_init]
  simp only [init, reached?]
  -- The stages in their order: the settings, the factory, its answer.
  cases source.read with
  | error failure => exact .refused rfl
  | ok o =>
      cases hfactory : s.factory with
      | none => exact .unavailable rfl hfactory
      | some factory =>
          simp only [Registry.create, Classifier.create]
          cases hanswer : family.create factory (o.engineConfig model) with
          | mk outcome factory' =>
              cases outcome with
              | ok engine => exact .made rfl hfactory hanswer (hs.gains_insert engine)
              | error status => exact .declined rfl hfactory hanswer
              | panic p => exact .brokeOff rfl hfactory hanswer

namespace InitEnds

variable {family} {now next : HostSession F E} {model : ModelRegion}
  {given : Except Failure Settings} {result : Except Failure UInt64} {asked : Asked}

/-- An engine is missed only by an init with settings, and only if there is no factory. -/
theorem eq_engineUnavailable_iff (h : InitEnds family now model given result next asked)
    (hgiven : given ≠ .error .engineUnavailable) :
    result = .error .engineUnavailable ↔ (∃ o, given = .ok o) ∧ now.factory = none := by
  cases h with
  | refused hsettings =>
      simp only [hsettings, ne_eq, Except.error.injEq] at hgiven
      simp [hsettings, hgiven]
  | unavailable hsettings hinstalled => exact ⟨fun _ => ⟨⟨_, hsettings⟩, hinstalled⟩, fun _ => rfl⟩
  | declined hsettings hinstalled hanswer => simp [hinstalled]
  | brokeOff hsettings hinstalled hanswer => simp [hinstalled]
  | made hsettings hinstalled hanswer hgains => simp [hinstalled]

/-- There is a handle if the factory is reached and comes up with an instance. -/
theorem exists_handle_iff (h : InitEnds family now model given result next asked) :
    (∃ handle, result = .ok handle)
      ↔ ∃ o factory engine, given = .ok o ∧ now.factory = some factory
        ∧ (family.create factory (o.engineConfig model)).1 = .ok engine := by
  cases h with
  | refused hsettings => simp [hsettings]
  | unavailable hsettings hinstalled => simp [hinstalled]
  | declined hsettings hinstalled hanswer => simp [hsettings, hinstalled, hanswer]
  | brokeOff hsettings hinstalled hanswer => simp [hsettings, hinstalled, hanswer]
  | made hsettings hinstalled hanswer hgains => simp [hsettings, hinstalled, hanswer]

end InitEnds

/-- Take any run from a session without handles and without a factory, and an init after it.
The first of three stages that fails decides how the init ends, what it leaves behind and
whom it asks: its settings, whether or not there is a factory; then the factory, which is
missing exactly if none was ever installed; then the answer of the factory that was installed
last, which is asked once. There is a handle exactly if this factory is reached and makes an
instance. -/
theorem init_by_stage {s : HostSession F E} (hentries : s.registry.entries = [])
    (hfactory : s.factory = none) (calls : List (HostCall F)) (model : ModelRegion)
    (source : SettingsSource) :
    let now := s.after family calls
    let given := source.read
    let result := (now.init family model source).1
    let next := (now.init family model source).2.1
    (now.step family (.init model source)).1 = .init (.ofResult result)
      ∧ source.Gives given
      ∧ InitEnds family now model given result next (now.asked family (.init model source))
      ∧ (result = .error .engineUnavailable
        ↔ (∃ o, given = .ok o) ∧ ∀ factory, .install factory ∉ calls)
      ∧ (result = .error .engineUnavailable → (InitReply.ofResult result).verdict.errorKind = 3)
      ∧ (∀ factory since, InstalledLast calls factory since → now.factory
        = some (family.afterRequests factory (since.filterMap HostCall.request?)))
      ∧ ((∃ handle, result = .ok handle)
        ↔ ∃ o factory engine, given = .ok o ∧ now.factory = some factory
          ∧ (family.create factory (o.engineConfig model)).1 = .ok engine) := by
  intro now given result next
  have hs := exclusive_after family (.of_entries_eq_nil hentries) calls
  have hends : InitEnds family now model given result next _ := initEnds family hs model source
  have hgives : source.Gives given := source.gives_read
  refine ⟨rfl, hgives, hends, ?_, ?_,
    fun factory since hlast => factory_after_installedLast family s hlast,
    hends.exists_handle_iff⟩
  · -- Settings never fail for want of an engine, so only the factory can be what is missing.
    rw [hends.eq_engineUnavailable_iff, factory_after_eq_none_iff family hfactory]
    intro hunavailable
    rw [hunavailable] at hgives
    exact hgives.ne_engineUnavailable rfl
  · intro hresult
    rw [hresult]
    rfl

/-- A factory that breaks off, installed in the place of one that has made an instance: it is
the one that is asked, and the next handle is still two. -/
theorem init_by_stage_replaced_factory :
    let s : HostSession SampleFactory SampleEngine := {}
    let script : Script := ⟨.panic .other, []⟩
    let calls : List (HostCall SampleFactory) :=
      [.install .echo, .init {} (.structure none), .install (.script script)]
    let now := s.after sampleFamily calls
    let source : SettingsSource := .structure (some { locale := some [0x64, 0x65, 0] })
    (s.registry.entries = [] ∧ s.factory = none)
      ∧ (now.step sampleFamily (.init {} source)).1 = .init (.ofResult
          (.error (.initialization ⟨.internal, "engine panicked: unknown panic"⟩)))
      ∧ now.asked sampleFamily (.init {} source)
        = .once (({ locale := "de" } : Settings).engineConfig {})
      ∧ (now.init sampleFamily {} source).2.1.registry.next = 2 := by
  intro s script calls now source
  obtain ⟨hreply, -, hends, -, -, hlast, -⟩ :=
    init_by_stage sampleFamily (s := s) rfl rfl calls {} source
  have hinstalled : now.factory = some (.script script) :=
    hlast (.script script) [] ⟨⟨[.install .echo, .init {} (.structure none)], rfl⟩, nofun⟩
  have hread : source.read = .ok { locale := "de" } := rfl
  rw [hreply]
  generalize (now.init sampleFamily {} source).1 = result at hends ⊢
  generalize (now.init sampleFamily {} source).2.1 = next at hends ⊢
  generalize now.asked sampleFamily (.init {} source) = asked at hends ⊢
  rw [hread] at hends
  cases hends with
  | refused hsettings => cases hsettings
  | unavailable hsettings hinstalled' =>
      rw [hinstalled] at hinstalled'
      cases hinstalled'
  | declined hsettings hinstalled' hanswer =>
      rw [hinstalled] at hinstalled'
      cases hinstalled'
      cases hanswer
  | brokeOff hsettings hinstalled' hanswer =>
      cases hsettings
      rw [hinstalled] at hinstalled'
      cases hinstalled'
      cases hanswer
      exact ⟨⟨rfl, rfl⟩, rfl, rfl, rfl⟩
  | made hsettings hinstalled' hanswer hgains =>
      rw [hinstalled] at hinstalled'
      cases hinstalled'
      cases hanswer

end HostSession

end ClassifierBridge
