import ClassifierBridge.Proofs.Json.Document
import ClassifierBridge.Proofs.Settings.Reader
import ClassifierBridge.Settings.Writer

/-!
# `ClassifierBridge.Proofs.Settings.RoundTrip`: reading undoes writing

The text of a host form is a document of the host shape, so the reader accepts
it and finds the form again, but for the threshold: a threshold that is not
finite is written as a `null`, and of a finite one this module only says that it
is there again. `Settings.ofJson_toJson` is the same for settings, where a flag
goes with the threshold: it announces one that a `null` does not give.

* `HostForm.writtenMembers`, `HostForm.spelling_toJson`: what the text spells.
* `HostForm.hostShape_writtenMembers`: the form that it stands for.
* `HostForm.read_toJson_of_denotesThreshold`: the form that is read.
* `Settings.ofJson_toJson`: settings survive exactly if the threshold is finite.
-/

set_option autoImplicit false

namespace ClassifierBridge

open Json

/-! ### The text of a form -/

/-- What is written for a threshold: its literal, or a `null`. -/
def Json.Tree.ofSingle (x : Single) : Tree :=
  if x.isFinite then .number (writtenLiteral x) else .null

/-- A threshold without a JSON number is written as a `null`. -/
theorem Json.Tree.ofSingle_eq_null {x : Single} (hinfinite : x.isFinite = false) :
    ofSingle x = .null := by
  rw [ofSingle, hinfinite]
  rfl

/-- The text of a threshold spells what is written for it. -/
theorem Json.spelling_ofSingle (x : Single) : Spelling (writeSingle x) (.ofSingle x) := by
  cases hfinite : x.isFinite with
  | true =>
      rw [Tree.ofSingle, if_pos hfinite]
      exact spelling_writeSingle hfinite
  | false =>
      rw [Tree.ofSingle_eq_null hfinite, writeSingle, hfinite]
      exact .null

/-- The threshold that is read where one was written. -/
theorem Json.exists_denotes_ofSingle (x : Single) :
    ∃ t, DenotesOptionalSingle (.ofSingle x) t ∧ t.isSome = x.isFinite := by
  cases hfinite : x.isFinite with
  | true =>
      obtain ⟨n, hvalue⟩ := exists_number_writtenLiteral hfinite
      rw [Tree.ofSingle, if_pos hfinite]
      exact ⟨some n.toSingle, .inr ⟨_, n, rfl, hvalue, rfl⟩, rfl⟩
  | false =>
      rw [Tree.ofSingle_eq_null hfinite]
      exact ⟨none, .inl ⟨rfl, rfl⟩, rfl⟩

namespace HostForm

/-- The members of the object that is written for a form, each with its text. -/
def writtenItems (form : HostForm) : List (List Char × (List Char × Tree)) :=
  [(writeMember "displayNamesLocale" (writeString form.locale),
      "displayNamesLocale".toList, .ofString form.locale),
    (writeMember "maxResults" (writeInteger form.maxResults.toInt),
      "maxResults".toList, .number (integerLiteral form.maxResults.toInt)),
    (writeMember "isScoreThresholdSet" (writeBool form.thresholdIsSet),
      "isScoreThresholdSet".toList, .bool form.thresholdIsSet)]
    ++ (form.threshold.map fun x => (writeMember "scoreThreshold" (writeSingle x),
      "scoreThreshold".toList, Tree.ofSingle x)).toList
    ++ [(writeMember "classNameAllowList" (writeStrings form.allow),
        "classNameAllowList".toList, .list (form.allow.map .ofString)),
      (writeMember "classNameDenyList" (writeStrings form.deny),
        "classNameDenyList".toList, .list (form.deny.map .ofString))]

/-- The members of the object that is written for a form. -/
def writtenMembers (form : HostForm) : List (List Char × Tree) := form.writtenItems.map Prod.snd

/-- Each text that is written is a member of the object. -/
theorem member_of_mem_writtenItems {form : HostForm} {p : List Char × (List Char × Tree)}
    (hmem : p ∈ form.writtenItems) : Member p.1 p.2 := by
  rcases List.mem_append.mp hmem with hfront | hlists
  · rcases List.mem_append.mp hfront with hfront | hthreshold
    · simp only [List.mem_cons, List.not_mem_nil, or_false] at hfront
      rcases hfront with rfl | rfl | rfl
      · exact member_writeMember _ (spelling_writeString _)
      · exact member_writeMember _ (spelling_writeInteger _)
      · exact member_writeMember _ (spelling_writeBool _)
    · rw [Option.mem_toList, Option.map_eq_some_iff] at hthreshold
      obtain ⟨x, -, rfl⟩ := hthreshold
      exact member_writeMember _ (spelling_ofSingle x)
  · simp only [List.mem_cons, List.not_mem_nil, or_false] at hlists
    rcases hlists with rfl | rfl
    · exact member_writeMember _ (spelling_writeStrings _)
    · exact member_writeMember _ (spelling_writeStrings _)

/-- The flag is written whether or not there is a threshold. -/
theorem flag_mem_writtenMembers (form : HostForm) :
    ("isScoreThresholdSet".toList, .bool form.thresholdIsSet) ∈ form.writtenMembers :=
  List.mem_map.mpr ⟨_,
    List.mem_append_left _ (List.mem_append_left _ (.tail _ (.tail _ (.head _)))),
    rfl⟩

/-- The threshold is written if there is one. -/
theorem threshold_mem_writtenMembers {form : HostForm} {x : Single}
    (hthreshold : form.threshold = some x) :
    ("scoreThreshold".toList, Tree.ofSingle x) ∈ form.writtenMembers := by
  have hitem : (writeMember "scoreThreshold" (writeSingle x), "scoreThreshold".toList,
      Tree.ofSingle x) ∈ form.writtenItems := by
    rw [writtenItems, hthreshold]
    exact List.mem_append_left _ (List.mem_append_right _ (List.mem_singleton_self _))
  exact List.mem_map.mpr ⟨_, hitem, rfl⟩

/-- The text of a form is an object without blanks around it. -/
theorem spelling_toJson (form : HostForm) :
    Spelling form.toJson.toList (.object form.writtenMembers) := by
  have hspelled := spelling_writeObject form.writtenItems fun p => member_of_mem_writtenItems
  have htexts : form.toJson.toList = writeObject (form.writtenItems.map Prod.fst) := by
    rw [toJson, String.toList_ofList, writtenItems]
    -- The member of the threshold is written or not, in the text as in the items.
    cases form.threshold with
    | none => rfl
    | some x => rfl
  rw [htexts]
  exact hspelled

/-- The lists of class names are the last members that are written. -/
theorem fills_lists {free : List Field} (hnodup : free.Nodup) (hallowFree : .allow ∈ free)
    (hdenyFree : .deny ∈ free.erase .allow) (start : HostForm) (allow deny : List String) :
    Fills free start
      [("classNameAllowList".toList, .list (allow.map .ofString)),
        ("classNameDenyList".toList, .list (deny.map .ofString))]
      { start with allow := allow, deny := deny } := by
  refine (fills_cons hnodup).mpr ⟨.allow, hallowFree, .inl rfl, allow, rfl, ?_⟩
  exact (fills_cons (hnodup.erase _)).mpr ⟨.deny, hdenyFree, .inl rfl, deny, rfl, fills_nil.mpr rfl⟩

/-- What the text of a form says about the threshold: what its value denotes, if
there is one. -/
def DenotesThreshold (form : HostForm) (t : Option Single) : Prop :=
  match form.threshold with
  | none => t = none
  | some x => DenotesOptionalSingle (.ofSingle x) t

/-- A threshold is there where a finite one was written. -/
theorem exists_denotesThreshold (form : HostForm) :
    ∃ t, form.DenotesThreshold t ∧ t.isSome = form.threshold.any Binary.isFinite := by
  unfold DenotesThreshold
  cases form.threshold with
  | none => exact ⟨none, rfl, rfl⟩
  | some x => exact exists_denotes_ofSingle x

/-- The object that is written for a form has the host shape and stands for the
form, with the threshold that its text denotes. -/
theorem hostShape_writtenMembers {form : HostForm} {t : Option Single}
    (hwritten : form.DenotesThreshold t) :
    HostShape form.writtenMembers { form with threshold := t } := by
  obtain ⟨locale, maxResults, thresholdIsSet, threshold, allow, deny⟩ := form
  have hnodup := Field.nodup_inOrder
  have hinteger : DenotesInt32 (.number (integerLiteral maxResults.toInt)) maxResults :=
    ⟨_, rfl, spells_integerLiteral _⟩
  -- The first three members are there whatever the threshold is.
  have hfront : ∀ {rest : List (List Char × Tree)} {form : HostForm},
      Fills [.threshold, .allow, .deny] ⟨locale, maxResults, thresholdIsSet, none, [], []⟩ rest
        form →
      HostShape (("displayNamesLocale".toList, .ofString locale)
        :: ("maxResults".toList, .number (integerLiteral maxResults.toInt))
        :: ("isScoreThresholdSet".toList, .bool thresholdIsSet) :: rest) form := by
    intro rest form hfills
    refine (fills_cons hnodup).mpr ⟨.locale, by decide, .inl rfl, locale, rfl, ?_⟩
    refine (fills_cons (hnodup.erase _)).mpr
      ⟨.maxResults, by decide, .inl rfl, maxResults, hinteger, ?_⟩
    exact (fills_cons ((hnodup.erase _).erase _)).mpr
      ⟨.thresholdIsSet, by decide, .inl rfl, thresholdIsSet, rfl, hfills⟩
  cases threshold with
  | none =>
      obtain rfl : t = none := hwritten
      exact hfront (fills_lists (by decide) (by decide) (by decide) _ allow deny)
  | some x =>
      refine hfront ?_
      exact (fills_cons (by decide)).mpr ⟨.threshold, by decide, .inl rfl, t, hwritten,
        fills_lists (by decide) (by decide) (by decide) _ allow deny⟩

/-- The text of a form is read as the form, with the threshold that it denotes. -/
theorem read_toJson_of_denotesThreshold {form : HostForm} {t : Option Single}
    (hwritten : form.DenotesThreshold t) :
    read form.toJson.toList = .ok ({ form with threshold := t }, []) := by
  have hshape := hostShape_writtenMembers hwritten
  have hspelled := form.spelling_toJson
  have hstart : form.toJson.toList.head? = some '\x7b' := by
    rw [toJson, String.toList_ofList]
    rfl
  have hnotList := ne_openList_of_head? hstart (by decide)
  refine (read_eq_ok_iff_of_object hnotList).mpr ?_
  exact ⟨[], form.toJson.toList, _, blanks_nil, hspelled, hshape, by
    rw [List.nil_append, List.append_nil]⟩

/-- The text of a form is read as the form, with a threshold where a finite one
was written. -/
theorem read_toJson (form : HostForm) :
    ∃ t, read form.toJson.toList = .ok ({ form with threshold := t }, [])
      ∧ t.isSome = form.threshold.any Binary.isFinite := by
  obtain ⟨t, hwritten, hpresent⟩ := form.exists_denotesThreshold
  exact ⟨t, read_toJson_of_denotesThreshold hwritten, hpresent⟩

end HostForm

/-! ### Settings -/

namespace Settings

/-- The text of settings is read as the settings with a threshold again, or is
refused where the flag announces one that the text does not have. -/
theorem ofJson_toJson_cases (o : Settings) :
    (o.threshold = none ∧ ofJson o.toJson = .ok o)
      ∨ (∃ x y, o.threshold = some x ∧ x.isFinite = true
          ∧ ofJson o.toJson = .ok { o with threshold := some y })
      ∨ (∃ x, o.threshold = some x ∧ x.isFinite = false
          ∧ ofJson o.toJson = .error .thresholdMissing) := by
  obtain ⟨t, hread, hpresent⟩ := o.hostForm.read_toJson
  obtain ⟨locale, maxResults, threshold, allow, deny⟩ := o
  have hended : endOfText [] = .ok () := endOfText_eq_ok_iff.mpr blanks_nil
  unfold ofJson toJson
  rw [hread]
  -- The flag is written as the threshold is there or not, and checked when the text is read.
  cases threshold with
  | none =>
      have habsent : t = none := Option.isNone_iff_eq_none.mp (by
        rw [← Option.not_isSome, hpresent]
        rfl)
      rw [habsent]
      exact .inl ⟨rfl, by simp only [hostForm, HostForm.settings?, Option.isSome_none, hended]⟩
  | some x =>
      right
      have hpresent : t.isSome = x.isFinite := hpresent
      cases t with
      | none => exact .inr ⟨x, rfl, hpresent.symm, rfl⟩
      | some y =>
          refine .inl ⟨x, y, rfl, hpresent.symm, ?_⟩
          simp only [hostForm, HostForm.settings?, Option.isSome_some, hended]

/-- Reading undoes writing. The text of settings is accepted exactly if the
threshold is unset or finite, and then everything but the value of the threshold
is known to be the same again; a threshold that is infinite or not a number is
reported as missing. -/
theorem ofJson_toJson (o : Settings) :
    ((∃ o', ofJson o.toJson = .ok o') ↔ ∀ x, o.threshold = some x → x.isFinite = true)
      ∧ (∀ o', ofJson o.toJson = .ok o' →
          o'.locale = o.locale ∧ o'.maxResults = o.maxResults ∧ o'.allow = o.allow
            ∧ o'.deny = o.deny ∧ o'.threshold.isSome = o.threshold.isSome)
      ∧ (∀ x, o.threshold = some x → x.isFinite = false →
          ∃ e, ofJson o.toJson = .error e
            ∧ e.message = "isScoreThresholdSet is true but scoreThreshold is missing") := by
  rcases ofJson_toJson_cases o with ⟨habsent, hsame⟩ | ⟨x, y, hgiven, hfinite, hsame⟩ |
    ⟨x, hgiven, hinfinite, hrefused⟩
  · rw [hsame, habsent]
    refine ⟨⟨fun _ => nofun, fun _ => ⟨o, rfl⟩⟩, fun o' hok => ?_, nofun⟩
    cases hok
    rw [habsent]
    exact ⟨rfl, rfl, rfl, rfl, rfl⟩
  · rw [hsame, hgiven]
    refine ⟨⟨fun _ x' hgiven' => ?_, fun _ => ⟨_, rfl⟩⟩, fun o' hok => ?_,
      fun x' hgiven' hinfinite => ?_⟩
    · rw [← Option.some.inj hgiven']
      exact hfinite
    · cases hok
      exact ⟨rfl, rfl, rfl, rfl, rfl⟩
    · rw [← Option.some.inj hgiven', hfinite] at hinfinite
      cases hinfinite
  · rw [hrefused, hgiven]
    refine ⟨⟨nofun, fun hall => ?_⟩, nofun, fun _ _ _ => ⟨_, rfl, rfl⟩⟩
    rw [hall x rfl] at hinfinite
    cases hinfinite

end Settings

end ClassifierBridge
