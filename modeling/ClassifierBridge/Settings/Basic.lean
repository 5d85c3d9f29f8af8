import ClassifierBridge.Binary.Arithmetic

/-!
# `ClassifierBridge.Settings.Basic`: what a classifier is configured with

`Settings` is what a host configures. Its threshold is either set or not: an
engine that is given none applies its own, so no number stands for "unset".
`HostForm` is the shape in which hosts send the same settings, with the
threshold as a flag beside a value; `EngineConfig` is the shape in which an
engine receives them, together with the place of the model.

`Settings` and `HostForm` say the same thing where the flag and the value agree:
`HostForm.settings?` goes one way and `Settings.hostForm` the other.
-/

set_option autoImplicit false

namespace ClassifierBridge

/-- A host's configuration of a classifier. -/
structure Settings where
  /-- the language of display names -/
  locale : String := "en"
  /-- the most categories per head, or a negative number for all -/
  maxResults : Int32 := -1
  /-- the least score a category may have, if the host asks for one -/
  threshold : Option Single := none
  /-- the class names to keep; what an empty list means is up to the engine -/
  allow : List String := []
  /-- the class names to drop -/
  deny : List String := []
deriving BEq

/-- The settings as hosts send them. While `thresholdIsSet` is false, `threshold`
means nothing. -/
structure HostForm where
  locale : String := "en"
  maxResults : Int32 := -1
  thresholdIsSet : Bool := false
  threshold : Option Single := none
  allow : List String := []
  deny : List String := []
deriving BEq

/-- The settings that a host form stands for. There are none if the flag says
that a threshold is set and no threshold is there. -/
def HostForm.settings? (form : HostForm) : Option Settings :=
  let settings (threshold : Option Single) : Settings :=
    ⟨form.locale, form.maxResults, threshold, form.allow, form.deny⟩
  match form.thresholdIsSet, form.threshold with
  | true, some threshold => some (settings (some threshold))
  | true, none => none
  | false, _ => some (settings none)

/-- The form in which a host would send the settings. -/
def Settings.hostForm (s : Settings) : HostForm :=
  ⟨s.locale, s.maxResults, s.threshold.isSome, s.threshold, s.allow, s.deny⟩

/-- Settings survive the way to the host form and back. -/
theorem Settings.settings?_hostForm (s : Settings) : s.hostForm.settings? = some s := by
  obtain ⟨locale, maxResults, threshold, allow, deny⟩ := s
  cases threshold with
  | none => rfl
  | some threshold => rfl

/-- One choice that a host makes. -/
inductive Setting where
  | locale (locale : String)
  | maxResults (n : Int32)
  | threshold (x : Single)
  | allow (names : List String)
  | deny (names : List String)

namespace Settings

/-- The settings with one choice made anew. -/
def set (s : Settings) : Setting → Settings
  | .locale locale => { s with locale }
  | .maxResults maxResults => { s with maxResults }
  | .threshold x => { s with threshold := some x }
  | .allow names => { s with allow := names }
  | .deny names => { s with deny := names }

/-- The settings after a series of choices; of two choices about the same thing
the later one counts. -/
def ofChoices (choices : List Setting) : Settings := choices.foldl set {}

end Settings

/-- The place of a model inside an open file. The host owns the file; whether
the place makes sense is for the engine to find out. -/
structure ModelRegion where
  fd : Int32 := 3
  length : Int64 := 1024
  offset : Int64 := 0
deriving DecidableEq, Repr

/-- The settings in the engine's terms. -/
structure EngineConfig where
  model : ModelRegion
  locale : String
  maxResults : Int32
  threshold : Option Single
  whitelist : List String
  blacklist : List String
deriving BEq

/-- The settings and the place of the model, handed to an engine unchanged. -/
def Settings.engineConfig (s : Settings) (model : ModelRegion) : EngineConfig :=
  ⟨model, s.locale, s.maxResults, s.threshold, s.allow, s.deny⟩

end ClassifierBridge
