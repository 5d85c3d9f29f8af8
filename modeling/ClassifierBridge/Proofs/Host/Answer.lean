import ClassifierBridge.Engines.Sample
import ClassifierBridge.Proofs.Host.Reply
import ClassifierBridge.Proofs.Host.Run
import ClassifierBridge.Proofs.Text.Utf8

/-!
# `ClassifierBridge.Proofs.Host.Answer`: an engine's answer crosses in full or not at all

A host walks the arrays of a reply by their lengths and reads each label in
memory up to a zero byte. The definitions below do the same, so that what they
find is what a host finds: `CString.memory` is what a label looks like there, and
`ClassifyReply.read` walks the whole reply.

* `CString.read_memory`: a label is read in full, whatever lies behind it.
* `ClassifyReply.read_eq`: a reply is read as it was built.
* `firstNul?_eq_none_iff`, `firstNul?_append_cons`: which label is refused, and
  for which byte.
* `HostSession.classify_shows_answer`: what a host finds when an engine answers.
-/

set_option autoImplicit false

namespace ClassifierBridge

/-! ### Reading memory -/

/-- A string for the host in memory: its bytes, then a zero. -/
def CString.memory (s : CString) : List UInt8 := Utf8.encode s.text.toList ++ [0]

/-- The bytes up to the first zero are those of the text. -/
theorem CString.bytes_memory (s : CString) (behind : List UInt8) :
    HostText.bytes (s.memory ++ behind) = Utf8.encode s.text.toList := by
  -- A zero byte would be that of a NUL, and the text has none.
  have hnonzero : ∀ b ∈ Utf8.encode s.text.toList, (b != 0) = true := by
    intro b hb
    obtain ⟨c, hc, hb⟩ := List.mem_flatMap.mp hb
    refine bne_iff_ne.mpr ?_
    rintro rfl
    refine Utf8.zero_not_mem_encodeChar (c := c) ?_ hb
    rintro rfl
    exact s.noNul hc
  show (s.memory ++ behind).takeWhile (· != 0) = _
  rw [memory, List.append_assoc, List.takeWhile_append_of_pos hnonzero, List.cons_append,
    List.takeWhile_cons_of_neg (by decide), List.append_nil]

/-- A host reads the whole text, whatever lies behind it in memory. -/
theorem CString.read_memory (s : CString) (behind : List UInt8) :
    HostText.read (some (s.memory ++ behind)) = .ok s.text := by
  unfold HostText.read
  dsimp only
  rw [s.bytes_memory, Utf8.decode?_encode]
  dsimp only
  rw [String.ofList_toList]

/-- A category as a host reads it: the label in memory, then the score. -/
def ReplyCategory.read (c : ReplyCategory) : Except TextFault LabelledScore :=
  (HostText.read (some c.label.memory)).map (⟨·, c.score⟩)

/-- One head as a host reads it: its categories, as many as it declares. -/
def ReplyHead.read (h : ReplyHead) : Except TextFault HeadRecord :=
  (h.categories.read.mapM ReplyCategory.read).map (⟨h.head, ·⟩)

/-- Reading items one by one finds what each of them reads as. -/
theorem mapM_eq_ok {α β : Type} {f : α → Except TextFault β} {g : α → β}
    (hread : ∀ a, f a = .ok (g a)) (items : List α) : items.mapM f = .ok (items.map g) := by
  rw [funext hread]
  exact List.mapM_pure

/-- A category is read as it was built: its label has no NUL, so all of it is read. -/
theorem ReplyCategory.read_eq (c : ReplyCategory) : c.read = .ok c.labelled := by
  have hlabel := c.label.read_memory []
  rw [List.append_nil] at hlabel
  rw [read, hlabel]
  rfl

/-- A head is read as it was built. -/
theorem ReplyHead.read_eq (h : ReplyHead) : h.read = .ok h.record := by
  rw [read, mapM_eq_ok ReplyCategory.read_eq]
  rfl

namespace ClassifyReply

/-- A whole reply as a host reads it: its heads, as many as it declares. -/
def read (r : ClassifyReply) : Except TextFault (List HeadRecord) :=
  r.heads.read.mapM ReplyHead.read

/-- A reply is read as it was built. -/
theorem read_eq (r : ClassifyReply) : r.read = .ok r.records := mapM_eq_ok ReplyHead.read_eq _

end ClassifyReply

/-! ### The label that is refused -/

/-- The selected labels of an answer, group by group. -/
def Classification.labels (answer : Classification) : List String :=
  answer.groups.flatMap fun g => g.categories.map Category.label

/-- The labels that are checked are those of the answer, in its order. -/
theorem Classification.labelsOf_records (answer : Classification) :
    labelsOf answer.records = answer.labels := by
  unfold labelsOf records labels
  rw [List.flatMap_map]
  congr 1
  funext g
  exact List.map_map ..

/-- Nothing is refused if no label has a NUL. -/
theorem firstNul?_eq_none_iff (labels : List String) :
    firstNul? labels = none ↔ ∀ label ∈ labels, '\x00' ∉ label.toList := by
  unfold firstNul?
  rw [Option.map_eq_none_iff, List.find?_eq_none]
  simp only [decide_eq_true_eq]

/-- The first label with a NUL is refused, for the byte at which the NUL stands. -/
theorem firstNul?_append_cons {before : List String} {label : String} (later : List String)
    (hbefore : ∀ l ∈ before, '\x00' ∉ l.toList) (hnul : '\x00' ∈ label.toList) :
    firstNul? (before ++ label :: later) = some ((Utf8.encode label.toList).idxOf 0) := by
  have hfind : before.find? (fun l => decide ('\x00' ∈ l.toList)) = none := by
    rw [List.find?_eq_none]
    intro l hl
    rw [decide_eq_true_eq]
    exact hbefore l hl
  -- The search passes over the labels before and stops at this one.
  unfold firstNul?
  rw [List.find?_append, hfind, Option.none_or, List.find?_cons, decide_eq_true hnul]
  show some (CString.nulPosition label) = _
  rw [CString.nulPosition, Utf8.byteLength_takeWhile]

/-! ### A call that an engine answers -/

namespace ClassifyReply

/-- What a host finds in the reply to an answer. -/
theorem ofResult_answer (answer : Classification) :
    ((∀ label ∈ answer.labels, '\x00' ∉ label.toList) →
        (ofResult (.ok answer.records)).verdict = .good
          ∧ (ofResult (.ok answer.records)).read = .ok (answer.groups.map fun g =>
              ⟨g.head, g.categories.map fun c => ⟨c.label, c.score⟩⟩))
      ∧ ∀ before label later, answer.labels = before ++ label :: later →
          (∀ l ∈ before, '\x00' ∉ l.toList) → '\x00' ∈ label.toList →
          ofResult (.ok answer.records) = ofFailure
            (.invalidArgument (.nulInLabel ((Utf8.encode label.toList).idxOf 0))) := by
  show (_ → (ofRecords answer.records).verdict = .good
      ∧ (ofRecords answer.records).read = .ok answer.records)
    ∧ ∀ before label later, _ → _ → _ → ofRecords answer.records = _
  rw [← answer.labelsOf_records]
  constructor
  · intro hlabels
    obtain ⟨hgood, hrecords⟩ := records_ofRecords ((firstNul?_eq_none_iff _).mpr hlabels)
    exact ⟨hgood, by rw [read_eq, hrecords]⟩
  · intro before label later hsplit hbefore hnul
    refine ofRecords_of_firstNul? ?_
    rw [hsplit, firstNul?_append_cons later hbefore hnul]

/-- The failure for a label with a NUL, as a host reads it. -/
theorem ofFailure_nulInLabel (position : Nat) :
    let reply := ofFailure (.invalidArgument (.nulInLabel position))
    reply.verdict.success = false ∧ reply.verdict.errorKind = 2
      ∧ reply.verdict.text
        = some ("invalid argument: category label contains a NUL byte at " ++ Nat.repr position)
      ∧ reply.heads.items = none ∧ reply.heads.length = 0 := by
  refine ⟨rfl, rfl, ?_, rfl, rfl⟩
  have hmessage : (Failure.invalidArgument (.nulInLabel position)).message
      = "invalid argument: category label contains a NUL byte at " ++ Nat.repr position := by
    show "invalid argument: " ++ ("category label contains a NUL byte at " ++ Nat.repr position) = _
    rw [← String.append_assoc]
    rfl
  rw [text_ofFailure, hmessage, if_neg]
  rw [String.toList_append, List.mem_append, not_or]
  exact ⟨by decide, nul_not_mem_repr _⟩

end ClassifyReply

namespace HostSession

variable {F E : Type} (family : EngineFamily F E)

/-- Take any run from a registry without entries, a handle that is live after it and
a buffer that can be read. There is an instance behind the handle; and whatever it
answers, the host finds all of it or nothing. If no selected label has a NUL, the
host reads one record for each group and in it one label and score for each category,
in the engine's order. Otherwise the reply is the failure that names the byte of the
first NUL in the first such label, and there is nothing else in it. -/
theorem classify_shows_answer {s : HostSession F E} (hentries : s.registry.entries = [])
    (calls : List (HostCall F)) {handle : UInt64} {pixels : HostPixels} {data : ByteArray}
    (size : Dimension) (hlive : (s.after family calls).registry.contains handle = true)
    (hread : pixels.read = .ok data) :
    ∃ engine, (s.after family calls).registry.instance? handle = some engine
      ∧ ∀ answer engine',
        family.classify engine { data, dimension := size } = (.ok answer, engine') →
        ∃ reply, ((s.after family calls).step family (.classify handle pixels size)).1
            = .classify reply
          ∧ ((∀ label ∈ answer.labels, '\x00' ∉ label.toList) →
              reply.verdict = .good
                ∧ reply.read = .ok (answer.groups.map fun g =>
                    ⟨g.head, g.categories.map fun c => ⟨c.label, c.score⟩⟩))
          ∧ ∀ before label later, answer.labels = before ++ label :: later →
              (∀ l ∈ before, '\x00' ∉ l.toList) → '\x00' ∈ label.toList →
              reply.verdict.success = false ∧ reply.verdict.errorKind = 2
                ∧ reply.verdict.text
                  = some ("invalid argument: category label contains a NUL byte at "
                      ++ Nat.repr ((Utf8.encode label.toList).idxOf 0))
                ∧ reply.heads.items = none ∧ reply.heads.length = 0 := by
  have hs := exclusive_after family (.of_entries_eq_nil hentries) calls
  have hframe : (s.after family calls).frameFor? handle (.classify handle pixels size)
      = some { data, dimension := size } :=
    frameFor?_eq_some_iff.mpr ⟨pixels, size, data, rfl, hlive, hread, rfl⟩
  obtain ⟨engine, hinst, hreply, -⟩ := step_of_frameFor? family hs hframe
  refine ⟨engine, hinst, fun answer engine' hanswer => ?_⟩
  -- The engine answered, so the records of its answer are what is handed over.
  have hresult : (settle .classification
      (Classifier.classify family engine { data, dimension := size }).1).1
      = .ok answer.records := by
    unfold Classifier.classify
    rw [hanswer]
    rfl
  rw [hresult] at hreply
  obtain ⟨hgood, hbad⟩ := ClassifyReply.ofResult_answer answer
  refine ⟨_, hreply, hgood, fun before label later hsplit hbefore hnul => ?_⟩
  rw [hbad before label later hsplit hbefore hnul]
  exact ClassifyReply.ofFailure_nulInLabel _

/-- An answer whose second label has a NUL behind seven bytes. -/
theorem classify_shows_answer_nul :
    let one : Single := Binary.ofInt 1
    let answer : Classification :=
      ⟨[⟨0, [⟨281, one, "a\x00b", "Katze"⟩]⟩, ⟨1, [⟨3, one, "Größe\x00\x00", ""⟩]⟩]⟩
    let s : HostSession SampleFactory SampleEngine := {}
    let calls : List (HostCall SampleFactory) :=
      [.install (.script ⟨.ok (), [.ok answer]⟩), .init {} (.structure none)]
    (s.registry.entries = [] ∧ (s.after sampleFamily calls).registry.contains 1 = true
        ∧ HostPixels.read ⟨none, 0⟩ = .ok ByteArray.empty)
      ∧ ∃ reply, ((s.after sampleFamily calls).step sampleFamily
            (.classify 1 ⟨none, 0⟩ ⟨0, 0⟩)).1 = .classify reply
        ∧ reply.verdict.text
          = some "invalid argument: category label contains a NUL byte at 7"
        ∧ reply.heads.items = none := by
  intro one answer s calls
  have hlive : (s.after sampleFamily calls).registry.contains 1 = true := by decide
  refine ⟨⟨rfl, hlive, rfl⟩, ?_⟩
  obtain ⟨engine, hinst, hshows⟩ := classify_shows_answer sampleFamily rfl calls
    ⟨0, 0⟩ hlive (show HostPixels.read ⟨none, 0⟩ = .ok ByteArray.empty from rfl)
  have hscript : (s.after sampleFamily calls).registry.instance? 1
      = some (.script ⟨⟨.ok (), [.ok answer]⟩, 0⟩) := rfl
  rw [hscript] at hinst
  cases hinst
  obtain ⟨reply, hreply, -, hbad⟩ := hshows answer _ rfl
  -- The second label is the first with a NUL. Two of its characters take two bytes.
  obtain ⟨-, -, htext, hnone, -⟩ := hbad ["Katze"] "Größe\x00\x00" [] rfl (by decide) (by decide)
  exact ⟨reply, hreply, htext, hnone⟩

end HostSession

end ClassifierBridge
