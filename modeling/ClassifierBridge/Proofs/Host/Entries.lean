import ClassifierBridge.Proofs.Host.Answer
import ClassifierBridge.Proofs.Host.Asked
import ClassifierBridge.Proofs.Host.Settings
import ClassifierBridge.Proofs.Settings.RoundTrip

/-!
# `ClassifierBridge.Proofs.Host.Entries`: the two entries configure alike

A host can hand over settings as a structure or as a JSON text, and the same settings have
many structures and many texts. `Settings.GivenBy` lists them. Whichever of them a host
chooses, the init is the same: the installed factory is asked once, for the same
configuration, and nothing tells the sessions after it apart.

* `givenBy_ofSettings`: settings whose strings have no NUL can be given by a structure.
* `GivenBy.read_eq`: what is given is read.
* `init_eq_of_givenBy`: two inits with the same settings.
-/

set_option autoImplicit false

namespace ClassifierBridge

/-- What a host hands over for some settings: a null pointer for the defaults, a structure that
describes them and whose arrays hold what they declare, or the bytes of a JSON text that is
read as them. -/
inductive Settings.GivenBy (o : Settings) : SettingsSource → Prop where
  | defaults
      (hsame : o = { locale := "en", maxResults := -1, threshold := none, allow := [], deny := [] }) :
      GivenBy o (.structure none)
  | described {h : HostSettings} (hallow : h.allow.Holds) (hdeny : h.deny.Holds)
      (hdescribes : h.Describes o) :
      GivenBy o (.structure (some h))
  | document {text : HostText} {json : String} (hspells : text.Spells json)
      (hread : Settings.ofJson json = .ok o) :
      GivenBy o (.document text)

/-- What is given is read, whichever way it came. -/
theorem Settings.GivenBy.read_eq {o : Settings} {source : SettingsSource} (h : o.GivenBy source) :
    source.read = .ok o := by
  -- Each way is one branch of the reader.
  cases h with
  | defaults hsame =>
      subst hsame
      rfl
  | described hallow hdeny hdescribes =>
      simp only [SettingsSource.read, (HostSettings.read_eq_ok_iff hallow hdeny).mpr hdescribes]
      rfl
  | document hspells hread =>
      simp only [SettingsSource.read, HostText.read_eq_ok_iff.mpr hspells, hread]
      rfl

/-! ### A structure for any settings -/

/-- The bytes of a text with a zero behind them. -/
def HostText.ofText (text : String) : HostText := some (Utf8.encode text.toList ++ [0])

/-- A text without a NUL is spelled in full. -/
theorem HostText.spells_ofText {text : String} (h : '\x00' ∉ text.toList) :
    (ofText text).Spells text :=
  ⟨_, rfl, by simpa [CString.memory] using CString.bytes_memory ⟨text, h⟩ []⟩

namespace HostArray

/-- An array that is made of a list has what it declares. -/
theorem holds_ofList {α : Type} (items : List α) : (ofList items).Holds := by
  intro held h
  cases items with
  | nil => cases h
  | cons item items =>
      cases h
      exact Nat.le_refl _

/-- An array for a list of names. -/
theorem lists_ofList {names : List String} (h : ∀ name ∈ names, '\x00' ∉ name.toList) :
    (ofList (names.map HostText.ofText)).Lists names := by
  rw [lists_iff (holds_ofList _), read_ofList, List.forall₂_map_left_iff, List.forall₂_same]
  exact fun name hname => HostText.spells_ofText (h name hname)

end HostArray

/-- The structure for some settings that leaves nothing to defaults. -/
def HostSettings.ofSettings (o : Settings) : HostSettings where
  locale := .ofText o.locale
  maxResults := o.maxResults
  thresholdIsSet := o.threshold.isSome
  threshold := o.threshold.getD (Binary.zero false)
  allow := .ofList (o.allow.map HostText.ofText)
  deny := .ofList (o.deny.map HostText.ofText)

/-- Settings whose strings have no NUL can be given by a structure. -/
theorem Settings.givenBy_ofSettings {o : Settings} (hlocale : '\x00' ∉ o.locale.toList)
    (hallow : ∀ name ∈ o.allow, '\x00' ∉ name.toList)
    (hdeny : ∀ name ∈ o.deny, '\x00' ∉ name.toList) :
    o.GivenBy (.structure (some (.ofSettings o))) := by
  refine .described (HostArray.holds_ofList _) (HostArray.holds_ofList _)
    ⟨.inr (HostText.spells_ofText hlocale), rfl, fun hset => ?_, fun hunset => ?_,
      HostArray.lists_ofList hallow, HostArray.lists_ofList hdeny⟩
  · obtain ⟨x, hx⟩ := Option.isSome_iff_exists.mp hset
    simp only [HostSettings.ofSettings, hx, Option.getD_some]
  · exact Option.not_isSome_iff_eq_none.mp (ne_true_of_eq_false hunset)

/-! ### Two entries -/

namespace HostSession

variable {F E : Type} (family : EngineFamily F E)

/-- Take any session with a factory, a model and settings, and two sources that give these
settings: two structures, two texts, or one of each. Either init asks the factory once, and
for the same configuration: the model, the locale, the number of results and the threshold as
they are, and the two lists with their order and all repetitions. The inits have the same
result and the same events, and they leave the same session. -/
theorem init_eq_of_givenBy {s : HostSession F E} {factory : F} (hfactory : s.factory = some factory)
    (fd : Int32) (length offset : Int64) {o : Settings} {a b : SettingsSource}
    (ha : o.GivenBy a) (hb : o.GivenBy b) :
    let model : ModelRegion := { fd, length, offset }
    let config : EngineConfig :=
      { model, locale := o.locale, maxResults := o.maxResults, threshold := o.threshold
        whitelist := o.allow, blacklist := o.deny }
    s.asked family (.init model a) = .once config
      ∧ s.asked family (.init model b) = .once config
      ∧ s.init family model a = s.init family model b
      ∧ s.step family (.init model a) = s.step family (.init model b) := by
  intro model config
  -- The source is only looked at for the settings that it gives.
  have hasked {source : SettingsSource} (h : o.GivenBy source) :
      s.asked family (.init model source) = .once config := by
    simp only [asked_init, reached?, h.read_eq, hfactory]
    rfl
  have hinit : s.init family model a = s.init family model b := by
    simp only [init, ha.read_eq, hb.read_eq]
  refine ⟨hasked ha, hasked hb, hinit, ?_⟩
  simp only [step, hinit]

/-- A structure with a NaN that the flag says to ignore and a null pointer for a list of seven
names, and a text. -/
theorem init_eq_of_givenBy_ignored :
    let s : HostSession SampleFactory SampleEngine := { factory := some .echo }
    let o : Settings := { maxResults := 3, allow := ["cat", "cat"] }
    let cat : HostText := .ofText "cat"
    let h : HostSettings :=
      { maxResults := 3, threshold := Binary.ofBits 0x7fc00000
        allow := ⟨some [cat, cat], 2⟩, deny := ⟨none, 7⟩ }
    let json : HostText := .ofText o.toJson
    (s.factory = some .echo ∧ o.GivenBy (.structure (some h)) ∧ o.GivenBy (.document json))
      ∧ s.step sampleFamily (.init {} (.structure (some h)))
        = s.step sampleFamily (.init {} (.document json)) := by
  intro s o cat h json
  have hnames : ∀ name ∈ o.allow, '\x00' ∉ name.toList := by decide
  have hallow : h.allow.Lists o.allow := HostArray.lists_ofList hnames
  have hdeny : h.deny.Lists o.deny := by
    rw [HostArray.lists_iff (by rintro _ ⟨⟩)]
    exact .nil
  have ha : o.GivenBy (.structure (some h)) :=
    .described (HostArray.holds_ofList (o.allow.map HostText.ofText)) (by rintro _ ⟨⟩)
      ⟨.inl ⟨rfl, rfl⟩, rfl, nofun, fun _ => rfl, hallow, hdeny⟩
  -- Without a threshold the text is read back as the settings themselves.
  have hjson : Settings.ofJson o.toJson = .ok o := by
    rcases Settings.ofJson_toJson_cases o with ⟨-, hread⟩ | ⟨x, y, hset, -⟩ | ⟨x, hset, -⟩
    · exact hread
    · cases hset
    · cases hset
  have hb : o.GivenBy (.document json) :=
    .document (HostText.spells_ofText (by decide +kernel)) hjson
  obtain ⟨-, -, -, hstep⟩ := init_eq_of_givenBy sampleFamily (s := s) rfl 3 1024 0 ha hb
  exact ⟨⟨rfl, ha, hb⟩, hstep⟩

end HostSession

end ClassifierBridge
