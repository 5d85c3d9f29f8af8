import ClassifierBridge.Proofs.Settings.HostShape

/-!
# `ClassifierBridge.Proofs.Settings.Reader`: exactly the host shape is accepted

`Settings.ofJson_eq_ok_iff` is soundness and completeness of the settings reader
for texts that do not start with a bracket: a text is accepted exactly if it is
a JSON document whose object has the host shape and the flag does not announce a
threshold that is not there, and the settings are the ones that the object
stands for.

The fields come first, each with the reader of its type, then the loop over the
members, then the whole text. At the loop both sides go one member at a time:
the grammar by `Remaining`, the form by `fills_cons`.
-/

set_option autoImplicit false

namespace ClassifierBridge

open Json

/-! ### Fields -/

/-- A reader whose values are mapped reads what denotes the values before. -/
theorem Json.Reads.map {α β : Type} {read : List Char → Except Fault (α × List Char)}
    {Denotes : Tree → α → Prop} (hreads : Reads read Denotes) (f : α → β) :
    Reads (fun s => (read s).map fun (v, rest) => (f v, rest))
      fun t w => ∃ v, Denotes t v ∧ w = f v where
  sound := fun hok => by
    obtain ⟨⟨v, rest⟩, hok', hsame⟩ := exists_of_map_eq_ok hok
    cases hsame
    obtain ⟨b, p, t, hblanks, hspelled, hdenotes, hsplit⟩ := hreads.sound hok'
    exact ⟨b, p, t, hblanks, hspelled, ⟨v, hdenotes, rfl⟩, hsplit⟩
  complete := fun hblanks hspelled hdenotes hends => by
    obtain ⟨v, hdenotes, rfl⟩ := hdenotes
    rw [hreads.complete hblanks hspelled hdenotes hends]
    rfl

/-- A field is read where a value of it stands, and goes into the form. -/
theorem HostForm.reads_field (form : HostForm) (field : Field) :
    Reads (form.readField field)
      fun t form' => ∃ v, field.Denotes t v ∧ form' = form.set field v := by
  cases field with
  | maxResults => exact reads_int32.map fun n => { form with maxResults := n }
  | thresholdIsSet => exact reads_bool.map fun b => { form with thresholdIsSet := b }
  | threshold => exact reads_optionalSingle.map fun x => { form with threshold := x }
  | allow => exact reads_stringList.map fun names => { form with allow := names }
  | deny => exact reads_stringList.map fun names => { form with deny := names }
  | locale =>
      have hreads := reads_string.map fun text => { form with locale := String.ofList text }
      -- The reader has characters where the form has a string.
      have hsame : ∀ (t : Tree) (form' : HostForm),
          (∃ text, t = .string text ∧ form' = { form with locale := String.ofList text })
            ↔ ∃ locale : String, t = .ofString locale ∧ form' = form.set .locale locale := by
        intro t form'
        constructor
        · rintro ⟨text, rfl, rfl⟩
          exact ⟨String.ofList text, by rw [Tree.ofString, String.toList_ofList], rfl⟩
        · rintro ⟨locale, rfl, rfl⟩
          exact ⟨locale.toList, rfl, by rw [String.ofList_toList]; rfl⟩
      refine ⟨fun hok => ?_, fun hblanks hspelled hdenotes hends => ?_⟩
      · obtain ⟨b, p, t, hblanks, hspelled, hdenotes, hsplit⟩ := hreads.sound hok
        exact ⟨b, p, t, hblanks, hspelled, (hsame _ _).mp hdenotes, hsplit⟩
      · exact hreads.complete hblanks hspelled ((hsame _ _).mpr hdenotes) hends

/-! ### Members -/

namespace HostForm

/-- No member is left where the brace closes. -/
theorem readMembers_close {b : List Char} (hblanks : Blanks b) (free : List Field) (first : Bool)
    (form : HostForm) (rest : List Char) :
    readMembers free first form (b ++ '\x7d' :: rest) = .ok (form, rest) := by
  rw [readMembers, nextMember_eq_close_iff.mpr ⟨b, hblanks, rfl⟩]

/-- A member that is due, of a field that is free, is taken off the front. -/
theorem readMembers_member {free : List Field} {first : Bool} {form form' : HostForm}
    {field : Field} {gap chars key blank s rest : List Char} (hbefore : Gap first gap)
    (hkeyChars : TextSpelling chars key) (hnames : Field.Names key field) (hfree : field ∈ free)
    (hblanks : Blanks blank) (hread : form.readField field s = .ok (form', rest)) :
    readMembers free first form (gap ++ '"' :: (chars ++ '"' :: (blank ++ ':' :: s)))
      = readMembers (free.erase field) false form' rest := by
  have hkeyRead := StringBody.read_eq_ok_iff.mpr
    ⟨chars, hkeyChars, (rfl : chars ++ '"' :: (blank ++ ':' :: s) = _)⟩
  rw [readMembers, nextMember_eq_item_iff.mpr ⟨gap, hbefore, rfl⟩]
  simp only [hkeyRead, Field.ofKey?_of_names hnames, dif_pos hfree,
    readColon_eq_ok_iff.mpr ⟨blank, hblanks, (rfl : blank ++ ':' :: s = _)⟩, hread]

/-- The members of an object are read exactly where they and the closing brace
come next, and they fill the free fields of the form. -/
theorem readMembers_eq_ok_iff {free : List Field} (hnodup : free.Nodup) {first : Bool}
    {start form : HostForm} {s rest : List Char} :
    readMembers free first start s = .ok (form, rest)
      ↔ ∃ p members, Remaining Member first p members ∧ Fills free start members form
          ∧ s = p ++ '\x7d' :: rest := by
  constructor
  · intro h
    -- Only the closing brace and a member that is taken end well.
    fun_induction readMembers free first start s with
    | case2 free first start s after hclose =>
        cases h
        obtain ⟨b, hblanks, rfl⟩ := nextMember_eq_close_iff.mp hclose
        exact ⟨b, [], .nil hblanks, fills_nil.mpr rfl, rfl⟩
    | case7 free first start s item hnext key afterKey hkeyRead field hnames hfree s' hcolon
        form' after hread ih =>
        obtain ⟨gap, hbefore, rfl⟩ := nextMember_eq_item_iff.mp hnext
        obtain ⟨chars, hkeyChars, rfl⟩ := StringBody.read_eq_ok_iff.mp hkeyRead
        obtain ⟨blank, hblanks, rfl⟩ := readColon_eq_ok_iff.mp hcolon
        obtain ⟨blank', p, t, hblanks', hspelled, ⟨v, hdenotes, rfl⟩, rfl⟩ :=
          (reads_field start field).sound hread
        obtain ⟨q, members, hitems, hfills, rfl⟩ := ih (hnodup.erase field) h
        refine ⟨gap ++ '"' :: (chars ++ '"' :: (blank ++ ':' :: (blank' ++ p))) ++ q,
          (key, t) :: members,
          .cons hbefore (.mk hkeyChars hblanks hblanks' hspelled) hitems, ?_, ?_⟩
        · exact (fills_cons hnodup).mpr
            ⟨field, hfree, Field.ofKey?_eq_some_iff.mp hnames, v, hdenotes, hfills⟩
        · simp only [List.append_assoc, List.cons_append]
    | _ => cases h
  · rintro ⟨p, members, hitems, hfills, rfl⟩
    -- By induction on the members that remain; each fills a field that the others leave alone.
    induction members generalizing free first start p with
    | nil =>
        cases hitems with
        | nil hblanks =>
            rw [readMembers_close hblanks, fills_nil.mp hfills]
    | cons m members ih =>
        obtain ⟨field, hfree, hnames, v, hdenotes, hfilled⟩ := (fills_cons hnodup).mp hfills
        cases hitems with
        | @cons _ gap _ q _ _ hbefore hitem hitems =>
            cases hitem with
            | @mk chars key blank blank' value t hkeyChars hleading htrailing hspelled =>
                -- The value is followed by the next gap or by the brace, which ends a number.
                have hends : EndsLiteral (q ++ '\x7d' :: rest) :=
                  hitems.endsLiteral (by decide) rest
                have hread := (reads_field start field).complete htrailing hspelled
                  ⟨v, hdenotes, rfl⟩ hends
                have hsplit : gap ++ '"' :: (chars ++ '"' :: (blank ++ ':' :: (blank' ++ value)))
                      ++ q ++ '\x7d' :: rest
                    = gap ++ '"' :: (chars ++ '"' :: (blank ++ ':' ::
                        (blank' ++ value ++ (q ++ '\x7d' :: rest)))) := by
                  simp only [List.append_assoc, List.cons_append]
                rw [hsplit, readMembers_member hbefore hkeyChars hnames hfree hleading hread]
                exact ih (hnodup.erase field) q hitems hfilled

/-! ### Documents -/

/-- An object that stands next is read exactly if it has the host shape. -/
theorem read_eq_ok_iff_of_object {form : HostForm} {s rest : List Char}
    (hnotList : ∀ b tail, Blanks b → s ≠ b ++ '[' :: tail) :
    read s = .ok (form, rest)
      ↔ ∃ b p members, Blanks b ∧ Spelling p (.object members) ∧ HostShape members form
          ∧ s = b ++ p ++ rest := by
  constructor
  · intro hok
    unfold read at hok
    split at hok
    · cases hok
    · next hhead =>
        obtain ⟨b, p, hblanks, hspelled, rfl⟩ := readHead_sound hhead
        obtain ⟨q, members, hitems, hshape, rfl⟩ :=
          (readMembers_eq_ok_iff Field.nodup_inOrder).mp hok
        cases hspelled with
        | openObject =>
            refine ⟨b, '\x7b' :: (q ++ ['\x7d']), members, hblanks,
              .object (bracketed_iff_remaining.mpr ⟨q, hitems, rfl⟩), hshape, ?_⟩
            simp only [List.append_assoc, List.cons_append, List.nil_append]
    · next hhead =>
        obtain ⟨b, p, hblanks, hspelled, rfl⟩ := readHead_sound hhead
        cases hspelled with
        | openList => exact absurd (List.append_assoc _ _ _) (hnotList b _ hblanks)
    · cases hok
  · rintro ⟨b, p, members, hblanks, hspelled, hshape, rfl⟩
    cases hspelled with
    | object hbetween =>
        obtain ⟨q, hitems, rfl⟩ := bracketed_iff_remaining.mp hbetween
        have hsplit : b ++ '\x7b' :: (q ++ ['\x7d']) ++ rest
            = b ++ ['\x7b'] ++ (q ++ '\x7d' :: rest) := by
          simp only [List.append_assoc, List.cons_append, List.nil_append]
        rw [hsplit, read, readHead_complete hblanks .openObject (fun n hsame => nomatch hsame)]
        exact (readMembers_eq_ok_iff Field.nodup_inOrder).mpr ⟨q, members, hitems, hshape, rfl⟩

/-- The settings that a form stands for: what it says, and the threshold only
where the flag is set. -/
theorem settings?_eq_some_iff {form : HostForm} {o : Settings} :
    form.settings? = some o
      ↔ (form.thresholdIsSet = true → form.threshold ≠ none)
        ∧ o = ⟨form.locale, form.maxResults, if form.thresholdIsSet then form.threshold else none,
            form.allow, form.deny⟩ := by
  obtain ⟨locale, maxResults, thresholdIsSet, threshold, allow, deny⟩ := form
  cases thresholdIsSet with
  | false => simp [settings?, eq_comm]
  | true =>
      cases threshold with
      | none => simp [settings?]
      | some x => simp [settings?, eq_comm]

end HostForm

/-- A text has ended where nothing but blanks is left. -/
theorem endOfText_eq_ok_iff {rest : List Char} : endOfText rest = .ok () ↔ Blanks rest := by
  constructor
  · intro hok
    obtain ⟨b, hblanks, hsplit⟩ := exists_blanks rest
    unfold endOfText at hok
    split at hok
    · next hnone =>
        rw [hsplit, hnone, List.append_nil]
        exact hblanks
    · cases hok
  · intro hblanks
    rw [endOfText, skipBlank_blanks hblanks]

/-- A text that starts with neither a blank nor a bracket starts no list. -/
theorem ne_openList_of_head? {s : List Char} {c : Char} (hstart : s.head? = some c)
    (hother : c ∉ [' ', '\t', '\n', '\r', '[']) (b tail : List Char) (hblanks : Blanks b) :
    s ≠ b ++ '[' :: tail := by
  rintro rfl
  cases b with
  | nil =>
      cases hstart
      exact hother (by decide)
  | cons _ b =>
      cases hstart
      exact hother (List.mem_append_left ['['] (hblanks c List.mem_cons_self))

namespace Settings

/-- A text is accepted if a form stands in it, the form stands for settings, and
only blanks follow. -/
theorem ofJson_eq_ok_iff_read {text : String} {o : Settings} :
    ofJson text = .ok o
      ↔ ∃ form rest, HostForm.read text.toList = .ok (form, rest) ∧ form.settings? = some o
          ∧ Blanks rest := by
  unfold ofJson
  constructor
  · intro hok
    split at hok
    · cases hok
    · next form rest hread =>
        split at hok
        · cases hok
        · next hsettings =>
            split at hok
            · cases hok
            · next hended =>
                cases hok
                exact ⟨form, rest, hread, hsettings, endOfText_eq_ok_iff.mp hended⟩
  · rintro ⟨form, rest, hread, hsettings, hblanks⟩
    simp only [hread, hsettings, endOfText_eq_ok_iff.mpr hblanks]

/-- The settings reader accepts exactly the host shape. -/
theorem ofJson_eq_ok_iff (text : String) (o : Settings)
    (hnotList : ∀ b tail, Blanks b → text.toList ≠ b ++ '[' :: tail) :
    ofJson text = .ok o
      ↔ ∃ members form, Document text.toList (.object members) ∧ HostShape members form
          ∧ (form.thresholdIsSet = true → form.threshold ≠ none)
          ∧ o = ⟨form.locale, form.maxResults,
              if form.thresholdIsSet then form.threshold else none, form.allow, form.deny⟩ := by
  rw [ofJson_eq_ok_iff_read]
  constructor
  · rintro ⟨form, rest, hread, hsettings, hblanks⟩
    obtain ⟨b, p, members, hleading, hspelled, hshape, hsplit⟩ :=
      (HostForm.read_eq_ok_iff_of_object hnotList).mp hread
    refine ⟨members, form, ?_, hshape, HostForm.settings?_eq_some_iff.mp hsettings⟩
    rw [hsplit]
    exact .mk hleading hspelled hblanks
  · rintro ⟨members, form, hdocument, hshape, hsettings⟩
    obtain ⟨b, p, rest, hleading, hspelled, htrailing, hsplit⟩ :
        ∃ b p rest, Blanks b ∧ Spelling p (.object members) ∧ Blanks rest
          ∧ text.toList = b ++ p ++ rest := by
      generalize text.toList = s at hdocument
      cases hdocument with
      | mk hleading hspelled htrailing => exact ⟨_, _, _, hleading, hspelled, htrailing, rfl⟩
    refine ⟨form, rest, ?_, HostForm.settings?_eq_some_iff.mpr hsettings, htrailing⟩
    exact (HostForm.read_eq_ok_iff_of_object hnotList).mpr
      ⟨b, p, members, hleading, hspelled, hshape, hsplit⟩

/-- A document of two members: the short name of the locale with an escape in
it, blanks, and a negative integer. -/
theorem ofJson_eq_ok_iff_escaped_key :
    ofJson "\x7b\"loc\\u0061le\": \"fr\" ,\"maxResults\":-7\x7d"
      = .ok ⟨"fr", -7, none, [], []⟩ := by
  refine (ofJson_eq_ok_iff _ _ (ne_openList_of_head? (c := '\x7b') rfl (by decide))).mpr ?_
  have hplain : ∀ c ∈ "locfre".toList, CharSpelling [c] c := by
    intro c hmem
    have hall : ∀ c ∈ "locfre".toList, c ≠ '"' ∧ c ≠ '\\' ∧ 0x20 ≤ c.toNat :=
      forall_mem_of_all (by decide)
    exact .plain (hall c hmem).1 (hall c hmem).2.1 (hall c hmem).2.2
  have hescaped : CharSpelling "\\u0061".toList 'a' := by
    have hzero : HexDigit '0' 0 := ⟨by decide, .inl rfl⟩
    have hsix : HexDigit '6' 6 := ⟨by decide, .inl rfl⟩
    have hone : HexDigit '1' 1 := ⟨by decide, .inl rfl⟩
    exact .unit (.digits hzero hzero hsix hone) (by decide)
  have hkey : TextSpelling "loc\\u0061le".toList "locale".toList :=
    .cons (hplain 'l' (by decide)) (.cons (hplain 'o' (by decide)) (.cons (hplain 'c' (by decide))
      (.cons hescaped (.cons (hplain 'l' (by decide)) (.cons (hplain 'e' (by decide)) .nil)))))
  have hspace : Blanks [' '] := forall_mem_of_all (by decide)
  have hlocale : Member "\"loc\\u0061le\": \"fr\"".toList ("locale".toList, .ofString "fr") :=
    .mk hkey blanks_nil hspace (StringBody.spelling_write "fr".toList)
  have hseven : WholeDigits ['7'] :=
    ⟨⟨List.cons_ne_nil _ _, forall_mem_of_all (by decide)⟩, by decide⟩
  have hliteral : Spelling "-7".toList (.number ⟨true, ['7'], [], none⟩) :=
    .number (.signed (.parts hseven .absent .absent))
  have hmaxResults : Member "\"maxResults\":-7".toList
      ("maxResults".toList, .number ⟨true, ['7'], [], none⟩) :=
    .mk (StringBody.textSpelling_flatMap_writeChar "maxResults".toList) blanks_nil blanks_nil
      hliteral
  refine ⟨_, ⟨"fr", -7, false, none, [], []⟩,
    .mk blanks_nil (.object (.some (.more blanks_nil hlocale hspace
      (.one blanks_nil hmaxResults blanks_nil)))) blanks_nil, ?_, nofun, rfl⟩
  refine (fills_cons Field.nodup_inOrder).mpr ⟨.locale, by decide, .inr ⟨rfl, rfl⟩, "fr", rfl, ?_⟩
  exact (fills_cons (Field.nodup_inOrder.erase _)).mpr
    ⟨.maxResults, by decide, .inl rfl, (-7 : Int32),
      ⟨_, rfl, rfl, rfl, by decide, by decide⟩, fills_nil.mpr rfl⟩

end Settings

end ClassifierBridge
