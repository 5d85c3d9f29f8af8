import ClassifierBridge.Host.Session
import ClassifierBridge.Proofs.Text.Utf8
import Mathlib.Data.List.Forall2

/-!
# `ClassifierBridge.Proofs.Host.Settings`: the structures that describe settings

What a host's structure has to look like, without reading it: `HostSettings.Describes` says
which settings it stands for, `HostSettings.WellFormed` which structures stand for any, and
`HostSettings.FirstFault` in which words the first fault of the others is reported. A string
is told by the bytes before its first zero, an array by the entries that it declares, and
there are none behind a null pointer.

* `HostText.read_eq_ok_iff`, `HostText.read_eq_error_iff`: a string is read as the text whose
  bytes it holds, and refused if there is none.
* `readTexts_eq_ok_iff`, `exists_of_readTexts_eq_error`: a list of strings, by induction.
* `HostSettings.read_eq_ok_iff`, `HostSettings.firstFault_iff`: a whole structure.
* `SettingsSource.read_structure`: the reader accepts the well-formed structures and names
  the first fault of every other one.
-/

set_option autoImplicit false

namespace ClassifierBridge

/-- A result that is passed on changed has failed only if it failed itself. -/
theorem error_of_map_eq_error {ε α β : Type} {f : α → β} {e : Except ε α} {fault : ε}
    (h : e.map f = .error fault) : e = .error fault := by
  cases e with
  | error other =>
      cases h
      rfl
  | ok value => cases h

/-! ### Strings -/

namespace HostText

/-- The bytes before the first zero are those of the text. A null pointer spells nothing. -/
def Spells (s : HostText) (text : String) : Prop :=
  ∃ memory, s = some memory ∧ bytes memory = Utf8.encode text.toList

/-- A string that spells no text has one of two faults. -/
def HasFault (s : HostText) : TextFault → Prop
  | .null => s = none
  | .notUtf8 => s ≠ none ∧ ∀ text, ¬ Spells s text

/-- A null pointer spells no text, not even the empty one. -/
theorem not_spells_none (text : String) : ¬ Spells none text := by
  rintro ⟨memory, h, -⟩
  cases h

/-- A string is read as the text that it spells. -/
theorem read_eq_ok_iff {s : HostText} {text : String} : read s = .ok text ↔ Spells s text := by
  cases s with
  | none =>
      constructor
      · intro h
        cases h
      · intro h
        exact absurd h (not_spells_none text)
  | some memory =>
      constructor
      · intro h
        simp only [read] at h
        split at h
        · next chars hdecoded =>
            cases h
            -- The bytes are decoded exactly if they are the encoding of a text.
            rw [Utf8.decode?_eq_some_iff] at hdecoded
            exact ⟨memory, rfl, by rw [String.toList_ofList, hdecoded]⟩
        · cases h
      · rintro ⟨_, h, hsame⟩
        cases h
        simp only [read, Utf8.decode?_eq_some_iff.mpr hsame.symm, String.ofList_toList]

/-- A string is refused for its fault. -/
theorem read_eq_error_iff {s : HostText} {fault : TextFault} :
    read s = .error fault ↔ HasFault s fault := by
  cases s with
  | none => cases fault <;> simp [read, HasFault]
  | some memory =>
      have hspells : (∀ text, ¬ Spells (some memory) text)
          ↔ read (some memory) = .error .notUtf8 := by
        simp only [← read_eq_ok_iff]
        cases hdecode : Utf8.decode? (bytes memory) with
        | none => simp [read, hdecode]
        | some chars => simp [read, hdecode]
      cases fault with
      | null =>
          constructor
          · intro h
            simp only [read] at h
            split at h <;> cases h
          · intro h
            cases h
      | notUtf8 =>
          rw [← hspells]
          exact ⟨fun h => ⟨nofun, h⟩, And.right⟩

/-- A string that may be left out is read as nothing or as its text. -/
theorem read?_eq_ok_iff {s : HostText} {text? : Option String} :
    read? s = .ok text?
      ↔ s = none ∧ text? = none ∨ ∃ text, Spells s text ∧ text? = some text := by
  cases s with
  | none => simp [read?, not_spells_none, eq_comm]
  | some memory =>
      simp only [read?, ← read_eq_ok_iff]
      cases read (some memory) with
      | error fault => simp [Except.map]
      | ok text => simp [Except.map, eq_comm]

/-- It is refused only for bytes that are no text. -/
theorem read?_eq_error_iff {s : HostText} {fault : TextFault} :
    read? s = .error fault ↔ fault = .notUtf8 ∧ HasFault s .notUtf8 := by
  cases s with
  | none => simp [read?, HasFault]
  | some memory =>
      constructor
      · intro h
        have hfault := read_eq_error_iff.mp (error_of_map_eq_error h)
        cases fault with
        | null => cases hfault
        | notUtf8 => exact ⟨rfl, hfault⟩
      · rintro ⟨rfl, hfault⟩
        simp only [read?, read_eq_error_iff.mpr hfault]
        rfl

end HostText

/-! ### Arrays of strings -/

namespace HostArray

/-- The memory behind the pointer, if it is not null, has as many items as the length says. -/
def Holds {α : Type} (a : HostArray α) : Prop :=
  ∀ items, a.items = some items → a.length ≤ items.length

/-- The entry that an array declares at an index. -/
def Entry {α : Type} (a : HostArray α) (i : Nat) (entry : α) : Prop :=
  ∃ items, a.items = some items ∧ i < a.length ∧ items[i]? = some entry

/-- The declared entries spell the names, one by one; a null pointer goes with no names,
whatever the length. -/
structure Lists (a : HostArray HostText) (names : List String) : Prop where
  null : a.items = none → names = []
  length_eq : a.items ≠ none → names.length = a.length
  spells : ∀ i name, names[i]? = some name → ∃ entry, a.Entry i entry ∧ entry.Spells name

/-- All declared entries spell something. -/
def WellFormed (a : HostArray HostText) : Prop :=
  ∀ i entry, a.Entry i entry → ∃ text, entry.Spells text

/-- The entry at an index is faulty, and no entry before it. -/
structure FirstFault (a : HostArray HostText) (i : Nat) (fault : TextFault) : Prop where
  faulty : ∃ entry, a.Entry i entry ∧ entry.HasFault fault
  first : ∀ j < i, ∀ entry, a.Entry j entry → ∃ text, entry.Spells text

/-- The declared entries are those that are read, unless the array is shorter than
it says. -/
theorem entry_iff {α : Type} {a : HostArray α} {i : Nat} {entry : α} :
    a.Entry i entry ↔ a.read[i]? = some entry := by
  unfold Entry read
  cases a.items with
  | none => simp
  | some items => simp [List.getElem?_take]

/-- As many entries are read as are declared, or none behind a null pointer. -/
theorem length_read {a : HostArray HostText} (h : a.Holds) :
    a.read.length = if a.items = none then 0 else a.length := by
  unfold read
  cases hitems : a.items with
  | none => rfl
  | some items => simp [h items hitems]

/-- The names of a list, in terms of the entries that are read. -/
theorem lists_iff {a : HostArray HostText} (h : a.Holds) {names : List String} :
    a.Lists names ↔ List.Forall₂ HostText.Spells a.read names := by
  have hlength := length_read h
  rw [List.forall₂_iff_get]
  constructor
  · -- Entry by entry, as lengths and indices agree on both sides.
    intro hlists
    have hsame : a.read.length = names.length := by
      rw [hlength]
      split
      · next hnull => rw [hlists.null hnull, List.length_nil]
      · next hsome => rw [hlists.length_eq hsome]
    refine ⟨hsame, fun i hi hi' => ?_⟩
    obtain ⟨entry, hentry, hspells⟩ := hlists.spells i names[i] (List.getElem?_eq_getElem hi')
    rw [entry_iff, List.getElem?_eq_getElem hi, Option.some.injEq] at hentry
    rw [List.get_eq_getElem, List.get_eq_getElem, hentry]
    exact hspells
  · rintro ⟨hsame, hall⟩
    rw [hlength] at hsame
    refine ⟨fun hnull => ?_, fun hsome => ?_, fun i name hname => ?_⟩
    · rw [if_pos hnull] at hsame
      exact List.length_eq_zero_iff.mp hsame.symm
    · rw [if_neg hsome] at hsame
      exact hsame.symm
    · obtain ⟨hi', rfl⟩ := List.getElem?_eq_some_iff.mp hname
      have hi : i < a.read.length := by rw [hlength, hsame]; exact hi'
      exact ⟨a.read[i], entry_iff.mpr (List.getElem?_eq_getElem hi), hall i hi hi'⟩

/-- An array with a faulty entry is not well formed. -/
theorem FirstFault.not_wellFormed {a : HostArray HostText} {i : Nat} {fault : TextFault}
    (h : a.FirstFault i fault) : ¬ a.WellFormed := by
  intro hall
  obtain ⟨entry, hentry, hfault⟩ := h.faulty
  obtain ⟨text, hspells⟩ := hall i entry hentry
  rw [← HostText.read_eq_ok_iff] at hspells
  rw [← HostText.read_eq_error_iff, hspells] at hfault
  cases hfault

/-- There is one first fault at most. -/
theorem FirstFault.unique {a : HostArray HostText} {i i' : Nat} {fault fault' : TextFault}
    (h : a.FirstFault i fault) (h' : a.FirstFault i' fault') : i = i' ∧ fault = fault' := by
  obtain ⟨entry, hentry, hfault⟩ := h.faulty
  obtain ⟨entry', hentry', hfault'⟩ := h'.faulty
  rw [← HostText.read_eq_error_iff] at hfault hfault'
  -- A faulty entry before the first one would be read.
  have hle : ¬ i < i' ∧ ¬ i' < i := by
    constructor
    · intro hlt
      obtain ⟨text, hspells⟩ := h'.first i hlt entry hentry
      rw [HostText.read_eq_ok_iff.mpr hspells] at hfault
      cases hfault
    · intro hlt
      obtain ⟨text, hspells⟩ := h.first i' hlt entry' hentry'
      rw [HostText.read_eq_ok_iff.mpr hspells] at hfault'
      cases hfault'
  obtain rfl : i = i' := by omega
  rw [entry_iff] at hentry hentry'
  rw [hentry] at hentry'
  cases hentry'
  rw [hfault] at hfault'
  cases hfault'
  exact ⟨rfl, rfl⟩

end HostArray

/-- A list is read if all of its entries are. -/
theorem readTexts_eq_ok_iff {entries : List HostText} {names : List String} (index : Nat) :
    readTexts index entries = .ok names ↔ List.Forall₂ HostText.Spells entries names := by
  -- The induction is on the entries, with the index counted on.
  induction entries generalizing index names with
  | nil => simp [readTexts, eq_comm]
  | cons entry entries ih =>
      simp only [readTexts, List.forall₂_cons_left_iff, ← HostText.read_eq_ok_iff]
      cases HostText.read entry with
      | error fault => simp
      | ok text =>
          simp only [Except.ok.injEq, ← ih (index + 1)]
          cases readTexts (index + 1) entries with
          | error fault => simp [Except.map]
          | ok texts => simp [Except.map, eq_comm]

/-- A list is refused for the first faulty entry, which is named by its index. -/
theorem exists_of_readTexts_eq_error {entries : List HostText} {index : Nat} {fault : EntryFault}
    (h : readTexts index entries = .error fault) :
    ∃ i entry, entries[i]? = some entry ∧ entry.HasFault fault.fault ∧ fault.index = index + i
      ∧ ∀ j < i, ∀ entry, entries[j]? = some entry → ∃ text, entry.Spells text := by
  -- The first entry is faulty, or the fault is one of those behind it.
  induction entries generalizing index with
  | nil => cases h
  | cons entry entries ih =>
      simp only [readTexts] at h
      split at h
      · next fault' hfault =>
          cases h
          exact ⟨0, entry, rfl, HostText.read_eq_error_iff.mp hfault, rfl, nofun⟩
      · next text htext =>
          obtain ⟨i, faulty, hfaulty, hfault, hindex, hfirst⟩ := ih (error_of_map_eq_error h)
          refine ⟨i + 1, faulty, hfaulty, hfault, by omega, fun j hj other hother => ?_⟩
          cases j with
          | zero =>
              cases hother
              exact ⟨text, HostText.read_eq_ok_iff.mp htext⟩
          | succ j => exact hfirst j (by omega) other hother

namespace HostArray

variable {a : HostArray HostText}

/-- An array is read as the names that it lists. -/
theorem lists_iff_readTexts (h : a.Holds) {names : List String} :
    a.Lists names ↔ readTexts 0 a.read = .ok names := by
  rw [lists_iff h, readTexts_eq_ok_iff]

/-- The fault that an array is refused for is its first one. -/
theorem firstFault_of_readTexts {fault : EntryFault} (h : readTexts 0 a.read = .error fault) :
    a.FirstFault fault.index fault.fault := by
  obtain ⟨i, entry, hentry, hfault, hindex, hfirst⟩ := exists_of_readTexts_eq_error h
  rw [Nat.zero_add] at hindex
  rw [hindex]
  exact ⟨⟨entry, entry_iff.mpr hentry, hfault⟩, fun j hj other hother =>
    hfirst j hj other (entry_iff.mp hother)⟩

/-- An array is read if it is well formed. -/
theorem wellFormed_iff : a.WellFormed ↔ ∃ names, readTexts 0 a.read = .ok names := by
  constructor
  · intro hall
    cases hread : readTexts 0 a.read with
    | ok names => exact ⟨names, rfl⟩
    | error fault => exact absurd hall (firstFault_of_readTexts hread).not_wellFormed
  · rintro ⟨names, hread⟩ i entry hentry
    obtain ⟨hsame, hall⟩ := List.forall₂_iff_get.mp ((readTexts_eq_ok_iff 0).mp hread)
    obtain ⟨hi, rfl⟩ := List.getElem?_eq_some_iff.mp (entry_iff.mp hentry)
    exact ⟨_, hall i hi (hsame ▸ hi)⟩

/-- An array is refused for its first fault. -/
theorem firstFault_iff {i : Nat} {fault : TextFault} :
    a.FirstFault i fault ↔ readTexts 0 a.read = .error ⟨i, fault⟩ := by
  constructor
  · intro hfirst
    cases hread : readTexts 0 a.read with
    | ok names => exact absurd (wellFormed_iff.mpr ⟨names, hread⟩) hfirst.not_wellFormed
    | error other =>
        obtain ⟨rfl, rfl⟩ := hfirst.unique (firstFault_of_readTexts hread)
        rfl
  · intro hread
    exact firstFault_of_readTexts hread

end HostArray

/-! ### Whole structures -/

/-- What is wrong with an entry of a list, in words. -/
def TextFault.inEntry : TextFault → String
  | .null => "null string"
  | .notUtf8 => "invalid UTF-8"

namespace HostSettings

/-- The structure stands for the settings: a null locale for `en`, the threshold for its bits
if the flag is set and for nothing otherwise. -/
structure Describes (s : HostSettings) (o : Settings) : Prop where
  locale : s.locale = none ∧ o.locale = "en" ∨ s.locale.Spells o.locale
  maxResults : o.maxResults = s.maxResults
  threshold_set : s.thresholdIsSet = true → o.threshold = some s.threshold
  threshold_unset : s.thresholdIsSet = false → o.threshold = none
  allow : s.allow.Lists o.allow
  deny : s.deny.Lists o.deny

/-- The locale is null or spells something. -/
def LocaleWellFormed (s : HostSettings) : Prop := s.locale = none ∨ ∃ text, s.locale.Spells text

/-- The structure stands for some settings. -/
structure WellFormed (s : HostSettings) : Prop where
  locale : s.LocaleWellFormed
  allow : s.allow.WellFormed
  deny : s.deny.WellFormed

/-- The first fault of a structure, in words: one of the locale, or else one of the list of
names to keep, or else one of the list of names to drop, and in a list the one with the
smallest index. -/
inductive FirstFault (s : HostSettings) : String → Prop where
  | locale (hfaulty : s.locale.HasFault .notUtf8) :
      FirstFault s "display names locale: invalid UTF-8"
  | allow {i : Nat} {fault : TextFault} (hlocale : s.LocaleWellFormed)
      (hfaulty : s.allow.FirstFault i fault) :
      FirstFault s ("class name allow list: " ++ (fault.inEntry ++ " at index " ++ Nat.repr i))
  | deny {i : Nat} {fault : TextFault} (hlocale : s.LocaleWellFormed)
      (hallow : s.allow.WellFormed) (hfaulty : s.deny.FirstFault i fault) :
      FirstFault s ("class name deny list: " ++ (fault.inEntry ++ " at index " ++ Nat.repr i))

variable {s : HostSettings}

/-- The locale is read, as nothing or as its text, if it is well formed. -/
theorem localeWellFormed_iff :
    s.LocaleWellFormed ↔ ∃ locale?, HostText.read? s.locale = .ok locale? := by
  simp only [LocaleWellFormed, HostText.read?_eq_ok_iff]
  constructor
  · rintro (hnull | ⟨text, hspells⟩)
    · exact ⟨none, .inl ⟨hnull, rfl⟩⟩
    · exact ⟨some text, .inr ⟨text, hspells, rfl⟩⟩
  · rintro ⟨locale?, ⟨hnull, -⟩ | ⟨text, hspells, -⟩⟩
    · exact .inl hnull
    · exact .inr ⟨text, hspells⟩

/-- A structure is read if its parts are, one after the other. -/
theorem read_eq_ok_iff_parts {o : Settings} :
    s.read = .ok o
      ↔ ∃ locale? allow deny, HostText.read? s.locale = .ok locale?
        ∧ readTexts 0 s.allow.read = .ok allow ∧ readTexts 0 s.deny.read = .ok deny
        ∧ o = ⟨locale?.getD "en", s.maxResults,
            if s.thresholdIsSet then some s.threshold else none, allow, deny⟩ := by
  simp only [read, bind, Except.bind]
  -- In the order of the reader: a part is looked at if those before it were read.
  cases HostText.read? s.locale with
  | error fault => simp [Except.mapError]
  | ok locale? =>
      cases readTexts 0 s.allow.read with
      | error fault => simp [Except.mapError]
      | ok allow =>
          cases readTexts 0 s.deny.read with
          | error fault => simp [Except.mapError]
          | ok deny => simp [Except.mapError, pure, Except.pure, @eq_comm _ o]

/-- A structure is refused for the first part that is refused. -/
theorem read_eq_error_iff_parts {fault : ArgumentFault} :
    s.read = .error fault
      ↔ HostText.read? s.locale = .error .notUtf8 ∧ fault = .locale .notUtf8
        ∨ (∃ locale?, HostText.read? s.locale = .ok locale?)
          ∧ ((∃ f, readTexts 0 s.allow.read = .error f ∧ fault = .names .allow f)
            ∨ (∃ allow, readTexts 0 s.allow.read = .ok allow)
              ∧ ∃ f, readTexts 0 s.deny.read = .error f ∧ fault = .names .deny f) := by
  simp only [read, bind, Except.bind]
  cases hlocale : HostText.read? s.locale with
  | error f =>
      obtain ⟨rfl, -⟩ := HostText.read?_eq_error_iff.mp hlocale
      simp [Except.mapError, @eq_comm _ fault]
  | ok locale? =>
      cases readTexts 0 s.allow.read with
      | error f => simp [Except.mapError, @eq_comm _ fault]
      | ok allow =>
          cases readTexts 0 s.deny.read with
          | error f => simp [Except.mapError, @eq_comm _ fault]
          | ok deny => simp [Except.mapError, pure, Except.pure]

/-- The settings that are read are those that the structure stands for. -/
theorem read_eq_ok_iff (hallow : s.allow.Holds) (hdeny : s.deny.Holds) {o : Settings} :
    s.read = .ok o ↔ s.Describes o := by
  rw [read_eq_ok_iff_parts]
  constructor
  · rintro ⟨locale?, allow, deny, hlocale, hallow', hdeny', rfl⟩
    refine ⟨?_, rfl, fun hflag => if_pos hflag, fun hflag => ?_, ?_, ?_⟩
    · rcases HostText.read?_eq_ok_iff.mp hlocale with ⟨hnull, rfl⟩ | ⟨text, hspells, rfl⟩
      · exact .inl ⟨hnull, rfl⟩
      · exact .inr hspells
    · simp only [hflag, Bool.false_eq_true, if_false]
    · exact (HostArray.lists_iff_readTexts hallow).mpr hallow'
    · exact (HostArray.lists_iff_readTexts hdeny).mpr hdeny'
  · intro h
    have hthreshold : o.threshold = if s.thresholdIsSet then some s.threshold else none := by
      cases hflag : s.thresholdIsSet with
      | true => exact h.threshold_set hflag
      | false => exact h.threshold_unset hflag
    obtain ⟨locale?, hlocale, hdefault⟩ :
        ∃ locale?, HostText.read? s.locale = .ok locale? ∧ o.locale = locale?.getD "en" := by
      rcases h.locale with ⟨hnull, hen⟩ | hspells
      · exact ⟨none, HostText.read?_eq_ok_iff.mpr (.inl ⟨hnull, rfl⟩), hen⟩
      · exact ⟨some o.locale, HostText.read?_eq_ok_iff.mpr (.inr ⟨_, hspells, rfl⟩), rfl⟩
    refine ⟨locale?, o.allow, o.deny, hlocale, (HostArray.lists_iff_readTexts hallow).mp h.allow,
      (HostArray.lists_iff_readTexts hdeny).mp h.deny, ?_⟩
    rw [← hdefault, ← hthreshold, ← h.maxResults]

/-- A structure is read if it is well formed. -/
theorem wellFormed_iff : s.WellFormed ↔ ∃ o, s.read = .ok o := by
  simp only [read_eq_ok_iff_parts]
  constructor
  · intro h
    obtain ⟨locale?, hlocale⟩ := localeWellFormed_iff.mp h.locale
    obtain ⟨allow, hallow⟩ := HostArray.wellFormed_iff.mp h.allow
    obtain ⟨deny, hdeny⟩ := HostArray.wellFormed_iff.mp h.deny
    exact ⟨_, locale?, allow, deny, hlocale, hallow, hdeny, rfl⟩
  · rintro ⟨_, locale?, allow, deny, hlocale, hallow, hdeny, -⟩
    exact ⟨localeWellFormed_iff.mpr ⟨_, hlocale⟩, HostArray.wellFormed_iff.mpr ⟨_, hallow⟩,
      HostArray.wellFormed_iff.mpr ⟨_, hdeny⟩⟩

/-- A structure is refused for its first fault, in the words for it. -/
theorem firstFault_iff {text : String} :
    s.FirstFault text ↔ ∃ fault, s.read = .error fault ∧ fault.message = text := by
  simp only [read_eq_error_iff_parts, ← localeWellFormed_iff, ← HostArray.wellFormed_iff]
  constructor
  · intro h
    cases h with
    | locale hfaulty =>
        exact ⟨_, .inl ⟨HostText.read?_eq_error_iff.mpr ⟨rfl, hfaulty⟩, rfl⟩, rfl⟩
    | @allow i fault hlocale hfaulty =>
        refine ⟨_, .inr ⟨hlocale, .inl ⟨_, HostArray.firstFault_iff.mp hfaulty, rfl⟩⟩, ?_⟩
        cases fault <;> rfl
    | @deny i fault hlocale hallow hfaulty =>
        refine ⟨_, .inr ⟨hlocale, .inr ⟨hallow, _, HostArray.firstFault_iff.mp hfaulty, rfl⟩⟩, ?_⟩
        cases fault <;> rfl
  · rintro ⟨fault, hread, rfl⟩
    rcases hread with ⟨hlocale, rfl⟩ |
      ⟨hlocale, ⟨⟨i, fault⟩, hallow, rfl⟩ | ⟨hallow, ⟨i, fault⟩, hdeny, rfl⟩⟩
    · exact .locale (HostText.read?_eq_error_iff.mp hlocale).2
    · have hfirst := FirstFault.allow hlocale (HostArray.firstFault_iff.mpr hallow)
      cases fault <;> exact hfirst
    · have hfirst := FirstFault.deny hlocale hallow (HostArray.firstFault_iff.mpr hdeny)
      cases fault <;> exact hfirst

/-- A structure with a first fault is not well formed. -/
theorem FirstFault.not_wellFormed {text : String} (h : s.FirstFault text) : ¬ s.WellFormed := by
  intro hwell
  obtain ⟨fault, hread, -⟩ := firstFault_iff.mp h
  obtain ⟨o, hok⟩ := wellFormed_iff.mp hwell
  rw [hread] at hok
  cases hok

end HostSettings

/-- The reader of a structure, whose arrays hold what they declare, accepts what is well formed
and nothing else. It then gives the settings that the structure stands for: each text has
the bytes before the first zero, the lists keep their lengths and orders, the locale is `en`
only if the pointer is null, and there is a threshold, of the given bits, if the flag is set.
What is not well formed is refused as an argument of the host, and in the words for its first
fault: the locale before the list of names to keep before the list of names to drop, and in
a list the smallest index. -/
theorem SettingsSource.read_structure (s : HostSettings) (hallow : s.allow.Holds)
    (hdeny : s.deny.Holds) :
    (∀ o, (SettingsSource.structure (some s)).read = .ok o ↔ s.Describes o)
      ∧ ((∃ o, (SettingsSource.structure (some s)).read = .ok o) ↔ s.WellFormed)
      ∧ (¬ s.WellFormed → ∃ fault,
          (SettingsSource.structure (some s)).read = .error (.invalidArgument fault)
            ∧ ∀ text, s.FirstFault text ↔ text = fault.message) := by
  have hok (o : Settings) : (SettingsSource.structure (some s)).read = .ok o ↔ s.read = .ok o := by
    simp only [SettingsSource.read]
    cases s.read <;> simp [Except.mapError]
  refine ⟨fun o => ?_, ?_, fun hfaulty => ?_⟩
  · rw [hok, HostSettings.read_eq_ok_iff hallow hdeny]
  · simp only [hok, HostSettings.wellFormed_iff]
  · -- What is not read is refused, and the words are those of one fault.
    rw [HostSettings.wellFormed_iff] at hfaulty
    cases hread : s.read with
    | ok o => exact absurd ⟨o, hread⟩ hfaulty
    | error fault =>
        refine ⟨fault, by simp only [SettingsSource.read, hread, Except.mapError], fun text => ?_⟩
        rw [HostSettings.firstFault_iff]
        constructor
        · rintro ⟨other, hother, rfl⟩
          rw [hread] at hother
          cases hother
          rfl
        · rintro rfl
          exact ⟨fault, hread, rfl⟩

/-- Three faults: the bytes of a surrogate and a null pointer in the list of names to keep, and
a null pointer in the other list. The first of them is reported. -/
theorem SettingsSource.read_structure_three_faults :
    let s : HostSettings :=
      { locale := some [0x64, 0x65, 0]
        allow := ⟨some [some [0x61, 0], some [0xED, 0xA0, 0x80, 0], none], 3⟩
        deny := ⟨some [none], 1⟩ }
    (s.allow.Holds ∧ s.deny.Holds)
      ∧ ∃ fault, (SettingsSource.structure (some s)).read = .error (.invalidArgument fault)
        ∧ fault.message = "class name allow list: invalid UTF-8 at index 1" := by
  intro s
  have hallow : s.allow.Holds := by
    rintro items ⟨⟩
    exact Nat.le_refl 3
  have hdeny : s.deny.Holds := by
    rintro items ⟨⟩
    exact Nat.le_refl 1
  have hfirst : s.allow.FirstFault 1 .notUtf8 := by
    refine ⟨⟨_, HostArray.entry_iff.mpr rfl, HostText.read_eq_error_iff.mp rfl⟩, ?_⟩
    intro j hj entry hentry
    obtain rfl : j = 0 := by omega
    cases HostArray.entry_iff.mp hentry
    exact ⟨"a", _, rfl, rfl⟩
  obtain ⟨-, -, hfaulty⟩ := SettingsSource.read_structure s hallow hdeny
  obtain ⟨fault, hread, hwords⟩ := hfaulty fun h => hfirst.not_wellFormed h.allow
  refine ⟨⟨hallow, hdeny⟩, fault, hread, ?_⟩
  exact ((hwords _).mp (.allow (.inr ⟨"de", _, rfl, rfl⟩) hfirst)).symm

end ClassifierBridge
