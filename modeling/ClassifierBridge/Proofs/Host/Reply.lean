import ClassifierBridge.Host.Reply

/-!
# `ClassifierBridge.Proofs.Host.Reply`: replies, read by the host

A host gets structures with pointers and lengths, C strings and numbers. The
definitions below are the host's side of the agreement: `ClassifyReply.records`
walks the arrays of a reply by their lengths, `Verdict.text` is the message that
it shows, and `firstNul?` is the place that a label was refused for. The
theorems:

* `records_ofRecords`: labels without a NUL come back as they were sent.
* `ofRecords_of_firstNul?`: the first label with a NUL decides, and nothing else
  of the result is handed out.
* `text_ofFailure`: the host reads the whole message of a failure, or the
  fallback where the message has a NUL.
* `ofResult_eq_invalidHandle_iff`: a host can tell an unknown handle from every
  other outcome.
-/

set_option autoImplicit false

namespace ClassifierBridge

/-! ### Reading a reply back -/

/-- The score and label as the host reads them. -/
def ReplyCategory.labelled (c : ReplyCategory) : LabelledScore := ⟨c.label.text, c.score⟩

/-- One head as the host reads it. -/
def ReplyHead.record (h : ReplyHead) : HeadRecord :=
  ⟨h.head, h.categories.read.map ReplyCategory.labelled⟩

/-- All heads as the host reads them. -/
def ClassifyReply.records (r : ClassifyReply) : List HeadRecord := r.heads.read.map ReplyHead.record

/-- The message that the host reads, if there is one. -/
def Verdict.text (v : Verdict) : Option String := v.errorMessage.map CString.text

/-- The labels of a result in the order in which they are handed out. -/
def labelsOf (records : List HeadRecord) : List String :=
  records.flatMap fun record => record.categories.map LabelledScore.label

/-- The place of the first NUL in the first label that has one. -/
def firstNul? (labels : List String) : Option Nat :=
  (labels.find? fun label => decide ('\x00' ∈ label.toList)).map CString.nulPosition

namespace ClassifyReply

/-- What the labels of a head decide: the first NUL refuses the head, and without
one the head is read back as it was. -/
theorem categories_spec (cs : List LabelledScore) :
    match firstNul? (cs.map LabelledScore.label) with
    | some position => categories cs = .error position
    | none => ∃ out, categories cs = .ok out ∧ out.map ReplyCategory.labelled = cs := by
  induction cs with
  | nil => exact ⟨[], rfl, rfl⟩
  | cons c rest ih =>
      unfold firstNul? at ih ⊢
      rw [List.map_cons, List.find?_cons]
      -- The first label decides if it has a NUL, and otherwise those behind it do.
      by_cases hnul : '\x00' ∈ c.label.toList
      · have hc : CString.ofText c.label = .error (CString.nulPosition c.label) := dif_pos hnul
        rw [decide_eq_true hnul]
        simp only [Option.map_some, categories, hc]
      · have hc : CString.ofText c.label = .ok ⟨c.label, hnul⟩ := CString.ofText_eq_ok_iff.mpr rfl
        rw [decide_eq_false hnul]
        simp only [categories, hc]
        split at ih
        · next position _ =>
            rw [ih]
            rfl
        · next =>
            obtain ⟨out, hout, hread⟩ := ih
            rw [hout]
            exact ⟨⟨⟨c.label, hnul⟩, c.score⟩ :: out, rfl, by rw [List.map_cons, hread]; rfl⟩

/-- What the labels of a result decide. -/
theorem headsOf_spec (records : List HeadRecord) :
    match firstNul? (labelsOf records) with
    | some position => headsOf records = .error position
    | none => ∃ heads, headsOf records = .ok heads ∧ heads.map ReplyHead.record = records := by
  induction records with
  | nil => exact ⟨[], rfl, rfl⟩
  | cons record rest ih =>
      have hhead := categories_spec record.categories
      unfold firstNul? labelsOf at *
      rw [List.flatMap_cons, List.find?_append]
      -- The same, head by head: the labels of the first one, then those behind it.
      cases hfind : (record.categories.map LabelledScore.label).find?
          fun label => decide ('\x00' ∈ label.toList) with
      | some label =>
          rw [hfind] at hhead
          simp only [Option.map_some] at hhead
          simp only [Option.some_or, Option.map_some, headsOf, hhead]
      | none =>
          rw [hfind] at hhead
          obtain ⟨cs, hcs, hread⟩ := hhead
          rw [Option.none_or]
          simp only [headsOf, hcs]
          split at ih
          · next position _ =>
              rw [ih]
              rfl
          · next =>
              obtain ⟨heads, hheads, hrest⟩ := ih
              rw [hheads]
              refine ⟨⟨HostArray.ofList cs, record.head⟩ :: heads, rfl, ?_⟩
              rw [List.map_cons, hrest]
              simp only [ReplyHead.record, HostArray.read_ofList, hread]

/-- Labels without a NUL: the reply is a success and the host reads what the
engine said. -/
theorem records_ofRecords {records : List HeadRecord} (h : firstNul? (labelsOf records) = none) :
    (ofRecords records).verdict = .good ∧ (ofRecords records).records = records := by
  have hspec := headsOf_spec records
  rw [h] at hspec
  obtain ⟨heads, hheads, hread⟩ := hspec
  unfold ofRecords ClassifyReply.records
  rw [hheads]
  simp only [HostArray.read_ofList, hread, and_self]

/-- A label with a NUL: the reply is the failure that names its place. -/
theorem ofRecords_of_firstNul? {records : List HeadRecord} {position : Nat}
    (h : firstNul? (labelsOf records) = some position) :
    ofRecords records = ofFailure (.invalidArgument (.nulInLabel position)) := by
  have hspec := headsOf_spec records
  rw [h] at hspec
  unfold ofRecords
  rw [hspec]

end ClassifyReply

/-! ### Messages -/

/-- The text that crosses is the whole text, or the fallback where the text has a
NUL. -/
theorem CString.text_orFallback (text : String) {fallback : String}
    (h : '\x00' ∉ fallback.toList) :
    (CString.orFallback text fallback).text
      = if '\x00' ∈ text.toList then fallback else text := by
  have hfallback : CString.ofText fallback = .ok ⟨fallback, h⟩ := CString.ofText_eq_ok_iff.mpr rfl
  unfold CString.orFallback
  -- The fallback has no NUL, so there is a C string for it.
  by_cases hnul : '\x00' ∈ text.toList
  · have htext : CString.ofText text = .error (CString.nulPosition text) := dif_pos hnul
    rw [htext, if_pos hnul]
    simp only [hfallback]
  · have htext : CString.ofText text = .ok ⟨text, hnul⟩ := CString.ofText_eq_ok_iff.mpr rfl
    rw [htext, if_neg hnul]

/-- A number is written without a NUL. -/
theorem nul_not_mem_repr (n : Nat) : '\x00' ∉ (Nat.repr n).toList := by
  rw [Nat.toList_repr]
  intro h
  have := Nat.isDigit_of_mem_toDigits (by decide) (by decide) h
  cases this

/-- Numbers that are written alike are the same (`Nat.repr_inj`, which stands in no module
that can be imported without all of Mathlib). -/
@[simp] theorem repr_inj {m n : Nat} : Nat.repr m = Nat.repr n ↔ m = n := by
  refine ⟨fun h => ?_, congrArg Nat.repr⟩
  have hvalue := congrArg (fun written : String => Nat.ofDigitChars 10 written.toList 0) h
  simpa only [Nat.toList_repr, Nat.ofDigitChars_ten_toDigits] using hvalue

/-- The messages of other failures begin with other words. -/
theorem Failure.eq_invalidHandle_of_message {failure : Failure} {handle : UInt64}
    (h : failure.message = "invalid classifier handle: " ++ Nat.repr handle.toNat) :
    failure = .invalidHandle handle := by
  unfold Failure.message at h
  have hchars := congrArg String.toList h
  cases failure with
  | invalidHandle other =>
      simp only [String.toList_append, List.append_cancel_left_eq, String.toList_inj] at hchars
      rw [UInt64.toNat_inj.mp (repr_inj.mp hchars)]
  | initialization status => simp at hchars
  | classification status => simp at hchars
  | invalidArgument fault => simp at hchars
  | config error => simp at hchars
  | engineUnavailable => simp at hchars

namespace ClassifyReply

/-- The message of a failed classification, as the host reads it. -/
theorem text_ofFailure (failure : Failure) :
    (ofFailure failure).verdict.text
      = some (if '\x00' ∈ failure.message.toList then fallback else failure.message) := by
  show some (CString.orFallback failure.message fallback).text = _
  rw [CString.text_orFallback _ (by decide)]

/-- The words for an unknown handle have no NUL, so they are shown. -/
theorem text_invalidHandle (handle : UInt64) :
    (ofFailure (.invalidHandle handle)).verdict.text
      = some ("invalid classifier handle: " ++ Nat.repr handle.toNat) := by
  rw [text_ofFailure, if_neg]
  · rfl
  · show '\x00' ∉ ("invalid classifier handle: " ++ Nat.repr handle.toNat).toList
    rw [String.toList_append, List.mem_append, not_or]
    exact ⟨by decide, nul_not_mem_repr _⟩

/-- No other failure is shown in the words for an unknown handle. -/
theorem eq_of_ofFailure_eq_invalidHandle {failure : Failure} {handle : UInt64}
    (h : ofFailure failure = ofFailure (.invalidHandle handle)) :
    failure = .invalidHandle handle := by
  have htext := congrArg (fun r : ClassifyReply => r.verdict.text) h
  simp only [text_invalidHandle] at htext
  rw [text_ofFailure, Option.some.injEq] at htext
  split at htext
  · have := congrArg String.toList htext
    simp [fallback] at this
  · exact Failure.eq_invalidHandle_of_message htext

/-- A host can tell an unknown handle from every other outcome of a
classification. -/
theorem ofResult_eq_invalidHandle_iff {result : Except Failure (List HeadRecord)}
    {handle : UInt64} :
    ofResult result = ofFailure (.invalidHandle handle)
      ↔ result = .error (.invalidHandle handle) := by
  constructor
  · intro h
    cases result with
    | error failure => rw [eq_of_ofFailure_eq_invalidHandle h]
    | ok records =>
        change ofRecords records = _ at h
        cases hnul : firstNul? (labelsOf records) with
        | none =>
            have hgood := (records_ofRecords hnul).1
            rw [h] at hgood
            cases congrArg Verdict.success hgood
        | some position =>
            rw [ofRecords_of_firstNul? hnul] at h
            cases eq_of_ofFailure_eq_invalidHandle h
  · intro h
    rw [h]
    rfl

end ClassifyReply

end ClassifierBridge
