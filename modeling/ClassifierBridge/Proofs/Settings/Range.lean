import ClassifierBridge.Proofs.Json.Range
import ClassifierBridge.Proofs.Settings.ListForm

/-!
# `ClassifierBridge.Proofs.Settings.Range`: thresholds past the range

The reader of settings does not look at the range of a threshold. A literal that
64 bits hold and 32 bits do not is accepted, and its threshold is infinite
(`Settings.ofJson_past_range`), which no text can say: the settings are written
with a `null` for it (`Settings.shows_null_of_infinite`), and that text is
refused. Below the range everything is well (`Settings.ofJson_threshold_range`):
what a text gives is never anything but a number, it is finite up to the midpoint
behind the largest one, and settings with a finite threshold or none are read
where they were written.
-/

set_option autoImplicit false

namespace ClassifierBridge

open Json

/-- The text gives the threshold by this literal, in an object or in a list. -/
def GivesThreshold (text : String) (l : Literal) : Prop :=
  ∃ t members key, Document text.toList t ∧ t.members? = some members
    ∧ (key, .number l) ∈ members ∧ Field.Names key .threshold

/-- The threshold of a form is worth what a literal among the members is. -/
theorem HostShape.exists_literal {members : List (List Char × Tree)} {form : HostForm}
    (hshape : HostShape members form) {x : Single} (hgiven : form.threshold = some x) :
    ∃ key l n, (key, .number l) ∈ members ∧ Field.Names key .threshold ∧ l.number = .ok n
      ∧ x = n.toSingle := by
  by_cases hnamed : ∃ m ∈ members, Field.Names m.1 .threshold
  · obtain ⟨⟨key, t⟩, hmem, hnames⟩ := hnamed
    have hdenotes : DenotesOptionalSingle t form.threshold := hshape.given _ hmem .threshold hnames
    rw [hgiven] at hdenotes
    rcases hdenotes with ⟨-, habsent⟩ | ⟨l, n, rfl, hvalue, hsame⟩
    · cases habsent
    · exact ⟨key, l, n, hmem, hnames, hvalue, Option.some.inj hsame⟩
  · -- Without such a member the form keeps the default, which is none.
    have hkept : form.threshold = none :=
      hshape.kept .threshold fun m hmem hnames => hnamed ⟨m, hmem, hnames⟩
    rw [hkept] at hgiven
    cases hgiven

namespace Settings

/-- The threshold of accepted settings is worth the literal that gives it. -/
theorem exists_literal_of_ofJson {text : String} {o : Settings} (haccepted : ofJson text = .ok o)
    {x : Single} (hgiven : o.threshold = some x) :
    ∃ l n, GivesThreshold text l ∧ l.number = .ok n ∧ x = n.toSingle := by
  obtain ⟨t, hdocument⟩ := exists_document_of_ofJson haccepted
  obtain ⟨form, ⟨members, hdenoted, hshape⟩, hsettings⟩ :=
    (ofJson_eq_ok_iff_of_document hdocument).mp haccepted
  obtain ⟨-, rfl⟩ := HostForm.settings?_eq_some_iff.mp hsettings
  -- The threshold of the settings is that of the form, whose flag must be set.
  have hinForm : form.threshold = some x := by
    dsimp only at hgiven
    split at hgiven
    · exact hgiven
    · cases hgiven
  obtain ⟨key, l, n, hmem, hnames, hvalue, hsame⟩ := hshape.exists_literal hinForm
  exact ⟨l, n, ⟨t, members, key, hdocument, hdenoted, hmem, hnames⟩, hvalue, hsame⟩

/-- Settings without a threshold or with a finite one are read where they were
written. -/
theorem ofJson_toJson_of_finite {o : Settings}
    (hfinite : ∀ x, o.threshold = some x → x.isFinite = true) : ofJson o.toJson = .ok o := by
  have hwritten : o.hostForm.DenotesThreshold o.threshold := by
    unfold HostForm.DenotesThreshold hostForm
    dsimp only
    cases hgiven : o.threshold with
    | none => rfl
    | some x => exact denotes_ofSingle (hfinite x hgiven)
  exact (ofJson_eq_ok_iff_of_document o.hostForm.spelling_toJson.document).mpr
    ⟨o.hostForm, ⟨_, rfl, HostForm.hostShape_writtenMembers hwritten⟩, o.settings?_hostForm⟩

/-- The literal `1e39`, between the ranges of 32 and of 64 bits. -/
def pastRange : Literal := ⟨false, ['1'], [], some (false, ['3', '9'])⟩

/-- The text `1e39` spells its literal. -/
theorem spelling_pastRange : Spelling "1e39".toList (.number pastRange) := by
  have hone : WholeDigits ['1'] :=
    ⟨⟨List.cons_ne_nil _ _, forall_mem_of_all (by decide)⟩, by decide⟩
  have hexponent : Digits ['3', '9'] := ⟨List.cons_ne_nil _ _, forall_mem_of_all (by decide)⟩
  exact .number (.unsigned (.parts hone .absent (.present (.inl rfl) .none hexponent)))

/-- The literal is worth a finite number of 64 bits, of which infinity is left in 32. -/
theorem denotes_pastRange : DenotesOptionalSingle (.number pastRange) (some (.infinite false)) := by
  have hbits : pastRange.number.toOption.map (fun n => n.toSingle.toBits) = some 0x7f800000 := by
    decide +kernel
  -- The bits are computed; they are those of infinity, and bits determine the number.
  cases hvalue : pastRange.number with
  | error unread =>
      rw [hvalue] at hbits
      cases hbits
  | ok n =>
      rw [hvalue] at hbits
      have hsame : Binary.ofBits n.toSingle.toBits = (.infinite false : Single) := by
        rw [show n.toSingle.toBits = 0x7f800000 from Option.some.inj hbits]
        rfl
      rw [Binary.ofBits_toBits] at hsame
      exact .inr ⟨pastRange, n, rfl, hvalue, by rw [hsame]⟩

/-- The range is not looked at: a literal that is finite in 64 bits gives a
threshold that is infinite in 32. -/
theorem ofJson_past_range :
    ofJson "\x7b\"isScoreThresholdSet\":true,\"scoreThreshold\":1e39\x7d"
      = .ok { threshold := some (.infinite false) } := by
  have hmembers := spelling_writeMembers
    [("isScoreThresholdSet", writeBool true, .bool true),
      ("scoreThreshold", "1e39".toList, .number pastRange)] (by
        simp only [List.forall_mem_cons]
        exact ⟨spelling_writeBool true, spelling_pastRange, nofun⟩)
  have hdocument := hmembers.document
  have htext : writeObject ([("isScoreThresholdSet", writeBool true, Tree.bool true),
        ("scoreThreshold", "1e39".toList, .number pastRange)].map fun m => writeMember m.1 m.2.1)
      = "\x7b\"isScoreThresholdSet\":true,\"scoreThreshold\":1e39\x7d".toList := rfl
  rw [htext] at hdocument
  refine (ofJson_eq_ok_iff_of_document hdocument).mpr
    ⟨⟨"en", -1, true, some (.infinite false), [], []⟩, ⟨_, rfl, ?_⟩, rfl⟩
  -- The two members fill the flag and the threshold; the other fields keep their defaults.
  have hnodup := Field.nodup_inOrder
  refine (fills_cons hnodup).mpr ⟨.thresholdIsSet, by decide, .inl rfl, true, rfl, ?_⟩
  refine (fills_cons (hnodup.erase _)).mpr
    ⟨.threshold, by decide, .inl rfl, some (.infinite false), denotes_pastRange, ?_⟩
  exact fills_nil.mpr rfl

/-- Settings with an infinite threshold are refused where they were written. -/
theorem ofJson_toJson_of_infinite {o : Settings} {x : Single} (hgiven : o.threshold = some x)
    (hinfinite : x.isFinite = false) : ofJson o.toJson = .error .thresholdMissing := by
  -- Of the three ways in which reading ends, only the last has an infinite threshold.
  rcases ofJson_toJson_cases o with ⟨habsent, -⟩ | ⟨y, -, hgiven', hfinite, -⟩ | ⟨-, -, -, hrefused⟩
  · rw [habsent] at hgiven
    cases hgiven
  · rw [hgiven'] at hgiven
    cases hgiven
    rw [hfinite] at hinfinite
    cases hinfinite
  · exact hrefused

/-- The text of settings with an infinite threshold sets the flag and shows a `null`
where the threshold should be. -/
theorem shows_null_of_infinite {o : Settings} {x : Single} (hgiven : o.threshold = some x)
    (hinfinite : x.isFinite = false) :
    ∃ members, Document o.toJson.toList (.object members)
      ∧ ("isScoreThresholdSet".toList, .bool true) ∈ members
      ∧ ("scoreThreshold".toList, .null) ∈ members := by
  have hset : o.hostForm.thresholdIsSet = true := by
    show o.threshold.isSome = true
    rw [hgiven]
    rfl
  have hflag := o.hostForm.flag_mem_writtenMembers
  have hthreshold : ("scoreThreshold".toList, Tree.ofSingle x) ∈ o.hostForm.writtenMembers :=
    HostForm.threshold_mem_writtenMembers hgiven
  rw [hset] at hflag
  rw [Tree.ofSingle_eq_null hinfinite] at hthreshold
  exact ⟨_, o.hostForm.spelling_toJson.document, hflag, hthreshold⟩

/-- Not every text that is accepted gives settings that can be written. -/
theorem ofJson_infinite_threshold :
    ∃ o, ofJson "\x7b\"isScoreThresholdSet\":true,\"scoreThreshold\":1e39\x7d" = .ok o
      ∧ o.threshold = some (.infinite false) ∧ ofJson o.toJson = .error .thresholdMissing :=
  ⟨_, ofJson_past_range, rfl, ofJson_toJson_of_infinite rfl rfl⟩

/-- The threshold of accepted settings comes from a literal that the text gives and
is a number. The literal is worth an integer or a finite number of 64 bits, and the
threshold is infinite only if that reaches the midpoint behind the range of 32 bits,
which no literal up to the largest finite number does. Unless the threshold is
infinite, the settings are accepted again where they were written, and are the same.
With an infinite threshold their text sets the flag and shows a `null`, so the
threshold is reported as missing. -/
theorem ofJson_threshold_range (text : String) (o : Settings) (haccepted : ofJson text = .ok o) :
    (∀ x, o.threshold = some x → ∃ l n, GivesThreshold text l ∧ l.number = .ok n ∧ n.Finite
        ∧ x = n.toSingle ∧ x.isNaN = false
        ∧ (x.isFinite = true ↔ n.size < 2 ^ 128 - 2 ^ 103)
        ∧ (l.decimal.value ≤ 2 ^ 128 - 2 ^ 104 → x.isFinite = true))
      ∧ ((∀ x, o.threshold = some x → x.isFinite = true) → ofJson o.toJson = .ok o)
      ∧ (∀ x, o.threshold = some x → x.isFinite = false →
          ofJson o.toJson = .error .thresholdMissing
            ∧ ∃ members, Document o.toJson.toList (.object members)
              ∧ ("isScoreThresholdSet".toList, .bool true) ∈ members
              ∧ ("scoreThreshold".toList, .null) ∈ members) := by
  refine ⟨fun x hgiven => ?_, ofJson_toJson_of_finite, fun x hgiven hinfinite =>
    ⟨ofJson_toJson_of_infinite hgiven hinfinite, shows_null_of_infinite hgiven hinfinite⟩⟩
  obtain ⟨l, n, hgives, hvalue, rfl⟩ := exists_literal_of_ofJson haccepted hgiven
  have hfinite := Literal.finite_of_number hvalue
  exact ⟨l, n, hgives, hvalue, hfinite, rfl, n.isNaN_toSingle hfinite,
    n.isFinite_toSingle_iff hfinite, Literal.isFinite_toSingle_of_le hvalue⟩

/-- The largest finite threshold is accepted as such and again where it is
written; the literal `1e39` is accepted too, is written as a `null`, and is refused
there. -/
theorem ofJson_threshold_range_ends :
    (∃ text, ofJson text = .ok { threshold := some (Binary.ofBits 0x7f7fffff) }
        ∧ (∃ l n, GivesThreshold text l ∧ l.number = .ok n ∧ n.Finite
          ∧ n.size < 2 ^ 128 - 2 ^ 103)
        ∧ ofJson (toJson { threshold := some (Binary.ofBits 0x7f7fffff) })
          = .ok { threshold := some (Binary.ofBits 0x7f7fffff) })
      ∧ ofJson "\x7b\"isScoreThresholdSet\":true,\"scoreThreshold\":1e39\x7d"
        = .ok { threshold := some (.infinite false) }
      ∧ ofJson (toJson { threshold := some (.infinite false) }) = .error .thresholdMissing
      ∧ ∃ members,
          Document (toJson { threshold := some (.infinite false) }).toList (.object members)
        ∧ ("scoreThreshold".toList, .null) ∈ members := by
  have hlargest : ∀ x, some (Binary.ofBits 0x7f7fffff : Single) = some x → x.isFinite = true := by
    rintro x ⟨⟩
    decide
  have haccepted : ofJson (toJson { threshold := some (Binary.ofBits 0x7f7fffff) })
      = .ok { threshold := some (Binary.ofBits 0x7f7fffff) } := ofJson_toJson_of_finite hlargest
  obtain ⟨hgives, hagain, -⟩ := ofJson_threshold_range _ _ haccepted
  obtain ⟨l, n, hliteral, hvalue, hfinite, -, -, hrange, -⟩ := hgives _ rfl
  obtain ⟨-, -, hpast⟩ := ofJson_threshold_range _ _ ofJson_past_range
  obtain ⟨hrefused, members, hdocument, -, hnull⟩ := hpast _ rfl rfl
  exact ⟨⟨_, haccepted, ⟨l, n, hliteral, hvalue, hfinite, hrange.mp (by decide)⟩, hagain hlargest⟩,
    ofJson_past_range, hrefused, members, hdocument, hnull⟩

end Settings

end ClassifierBridge
