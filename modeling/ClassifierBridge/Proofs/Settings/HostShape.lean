import ClassifierBridge.Proofs.Json.Items
import ClassifierBridge.Settings.Reader

/-!
# `ClassifierBridge.Proofs.Settings.HostShape`: the objects that are host forms

The shape that hosts are promised, without reading it: which keys an object may
have, what may stand behind each, and which form the object stands for. The
members come in any order, so the form is described field by field.

* `Field.Names`, `Field.Denotes`: the keys of a field and the trees of its values.
* `Fills`: the members of an object fill the fields that are free in a form.
* `HostShape`: they fill the form of defaults.
* `fills_cons`: the same one member at a time, as a reader goes.
-/

set_option autoImplicit false

namespace ClassifierBridge

open Json

/-! ### Forms, field by field -/

/-- The type of a field's values. -/
def Field.Value : Field → Type
  | .locale => String
  | .maxResults => Int32
  | .thresholdIsSet => Bool
  | .threshold => Option Single
  | .allow => List String
  | .deny => List String

namespace HostForm

/-- The value of a field. -/
def get (form : HostForm) : (field : Field) → field.Value
  | .locale => form.locale
  | .maxResults => form.maxResults
  | .thresholdIsSet => form.thresholdIsSet
  | .threshold => form.threshold
  | .allow => form.allow
  | .deny => form.deny

/-- The form with another value in one field. -/
def set (form : HostForm) : (field : Field) → field.Value → HostForm
  | .locale, locale => { form with locale := locale }
  | .maxResults, n => { form with maxResults := n }
  | .thresholdIsSet, b => { form with thresholdIsSet := b }
  | .threshold, x => { form with threshold := x }
  | .allow, names => { form with allow := names }
  | .deny, names => { form with deny := names }

/-- A field has the value that it was given. -/
@[simp] theorem get_set_self (form : HostForm) (field : Field) (v : field.Value) :
    (form.set field v).get field = v := by
  cases field
  all_goals rfl

/-- The other fields keep theirs. -/
@[simp] theorem get_set_of_ne (form : HostForm) {field other : Field} (hne : other ≠ field)
    (v : field.Value) : (form.set field v).get other = form.get other := by
  cases field
  all_goals
    cases other
    all_goals first
      | rfl
      | exact absurd rfl hne

/-- Forms are equal if they agree in every field. -/
theorem ext_get {form form' : HostForm} (hsame : ∀ field, form.get field = form'.get field) :
    form = form' := by
  obtain ⟨locale, maxResults, thresholdIsSet, threshold, allow, deny⟩ := form
  obtain ⟨locale', maxResults', thresholdIsSet', threshold', allow', deny'⟩ := form'
  obtain rfl : locale = locale' := hsame .locale
  obtain rfl : maxResults = maxResults' := hsame .maxResults
  obtain rfl : thresholdIsSet = thresholdIsSet' := hsame .thresholdIsSet
  obtain rfl : threshold = threshold' := hsame .threshold
  obtain rfl : allow = allow' := hsame .allow
  obtain rfl : deny = deny' := hsame .deny
  rfl

end HostForm

namespace Field

/-- A tree denotes a value of the field. -/
def Denotes : (field : Field) → Tree → field.Value → Prop
  | .locale => fun t (text : String) => t = .ofString text
  | .maxResults => DenotesInt32
  | .thresholdIsSet => fun t (b : Bool) => t = .bool b
  | .threshold => DenotesOptionalSingle
  | .allow => fun t (names : List String) => t = .list (names.map .ofString)
  | .deny => fun t (names : List String) => t = .list (names.map .ofString)

/-- A key names a field; the locale has two names. -/
def Names (key : List Char) (field : Field) : Prop :=
  key = field.key.toList ∨ field = .locale ∧ key = "locale".toList

/-- No field is named twice in the order of the fields. -/
theorem nodup_inOrder : inOrder.Nodup := by decide

/-- A key of a field is found. -/
theorem ofKey?_of_names {key : List Char} {field : Field} (hnames : Names key field) :
    ofKey? key = some field := by
  rcases hnames with rfl | ⟨rfl, rfl⟩
  · cases field
    all_goals decide
  · decide

/-- The key of a field and nothing else leads to the field. -/
theorem ofKey?_eq_some_iff {key : List Char} {field : Field} :
    ofKey? key = some field ↔ Names key field := by
  refine ⟨fun h => ?_, ofKey?_of_names⟩
  -- Keys are compared as strings and named as characters.
  have htoList : ∀ {name : String}, String.ofList key = name → key = name.toList := by
    rintro name rfl
    exact String.toList_ofList.symm
  rw [ofKey?] at h
  split at h
  · next hshort =>
      cases h
      exact .inr ⟨rfl, htoList hshort⟩
  · have hlong := List.find?_some h
    exact .inl (htoList (of_decide_eq_true hlong))

/-- No key names two fields. -/
theorem names_unique {key : List Char} {field field' : Field} (hnames : Names key field)
    (hnames' : Names key field') : field = field' := by
  have hsame := (ofKey?_of_names hnames).symm.trans (ofKey?_of_names hnames')
  exact Option.some.inj hsame

end Field

/-! ### Objects -/

/-- The members of an object fill the free fields of `start`, which makes it
`form`: every key names a free field, no field is named twice, a field that is
named has the value of its member, and the others keep what they had. -/
structure Fills (free : List Field) (start : HostForm) (members : List (List Char × Tree))
    (form : HostForm) : Prop where
  known : ∀ m ∈ members, ∃ field ∈ free, Field.Names m.1 field
  once : members.Pairwise fun m m' => ∀ field, Field.Names m.1 field → ¬ Field.Names m'.1 field
  given : ∀ m ∈ members, ∀ field, Field.Names m.1 field → field.Denotes m.2 (form.get field)
  kept : ∀ field, (∀ m ∈ members, ¬ Field.Names m.1 field) → form.get field = start.get field

/-- The members of an object are those of a host form: all fields are free, and
what is not given has its default. -/
def HostShape (members : List (List Char × Tree)) (form : HostForm) : Prop :=
  Fills Field.inOrder {} members form

/-- Without members, the form stays what it was. -/
theorem fills_nil {free : List Field} {start form : HostForm} :
    Fills free start [] form ↔ form = start := by
  constructor
  · intro hfills
    exact HostForm.ext_get fun field => hfills.kept field fun m hmem => absurd hmem List.not_mem_nil
  · rintro rfl
    exact ⟨fun m hmem => absurd hmem List.not_mem_nil, .nil,
      fun m hmem => absurd hmem List.not_mem_nil, fun field _ => rfl⟩

/-- The first member takes a free field, and the others fill what that leaves. -/
theorem fills_cons {free : List Field} (hnodup : free.Nodup) {start form : HostForm}
    {m : List Char × Tree} {members : List (List Char × Tree)} :
    Fills free start (m :: members) form
      ↔ ∃ field ∈ free, Field.Names m.1 field ∧ ∃ v, field.Denotes m.2 v
          ∧ Fills (free.erase field) (start.set field v) members form := by
  constructor
  · intro hfills
    obtain ⟨field, hfree, hnames⟩ := hfills.known m List.mem_cons_self
    obtain ⟨hothers, honce⟩ := List.pairwise_cons.mp hfills.once
    refine ⟨field, hfree, hnames,
      form.get field, hfills.given m List.mem_cons_self field hnames, ?_⟩
    refine ⟨fun m' hmem => ?_, honce,
      fun m' hmem => hfills.given m' (List.mem_cons_of_mem m hmem), ?_⟩
    · -- A later member names another field, which is still free.
      obtain ⟨field', hfree', hnames'⟩ := hfills.known m' (List.mem_cons_of_mem m hmem)
      refine ⟨field', (List.Nodup.mem_erase_iff hnodup).mpr ⟨?_, hfree'⟩, hnames'⟩
      rintro rfl
      exact hothers m' hmem field' hnames hnames'
    · -- What no later member names is the field just set, or was kept all along.
      intro field' hunnamed
      by_cases hsame : field' = field
      · subst hsame
        rw [HostForm.get_set_self]
      · rw [HostForm.get_set_of_ne start hsame]
        refine hfills.kept field' fun m' hmem => ?_
        rcases List.mem_cons.mp hmem with rfl | hlater
        · exact fun hnames' => hsame (Field.names_unique hnames' hnames)
        · exact hunnamed m' hlater
  · rintro ⟨field, hfree, hnames, v, hdenotes, hfills⟩
    -- The field is no longer free for the members after it.
    have htaken : ∀ m' ∈ members, ¬ Field.Names m'.1 field := by
      intro m' hmem hnames'
      obtain ⟨field', hfree', hother⟩ := hfills.known m' hmem
      obtain rfl := Field.names_unique hnames' hother
      exact ((List.Nodup.mem_erase_iff hnodup).mp hfree').1 rfl
    refine ⟨fun m' hmem => ?_, List.pairwise_cons.mpr ⟨?_, hfills.once⟩, fun m' hmem => ?_, ?_⟩
    · rcases List.mem_cons.mp hmem with rfl | hlater
      · exact ⟨field, hfree, hnames⟩
      · obtain ⟨field', hfree', hnames'⟩ := hfills.known m' hlater
        exact ⟨field', List.mem_of_mem_erase hfree', hnames'⟩
    · intro m' hmem field' hnames'
      rw [Field.names_unique hnames' hnames]
      exact htaken m' hmem
    · intro field' hnames'
      rcases List.mem_cons.mp hmem with rfl | hlater
      · obtain rfl := Field.names_unique hnames' hnames
        rw [hfills.kept field' htaken, HostForm.get_set_self]
        exact hdenotes
      · exact hfills.given m' hlater field' hnames'
    · intro field' hunnamed
      have hother : field' ≠ field := by
        rintro rfl
        exact hunnamed m List.mem_cons_self hnames
      rw [hfills.kept field' fun m' hmem => hunnamed m' (List.mem_cons_of_mem m hmem),
        HostForm.get_set_of_ne start hother]

end ClassifierBridge
