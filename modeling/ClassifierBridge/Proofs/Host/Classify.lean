import ClassifierBridge.Proofs.Host.Answer
import ClassifierBridge.Proofs.Host.Asked

/-!
# `ClassifierBridge.Proofs.Host.Classify`: a classify is decided by its first failing stage

A classify looks at the buffer, then at the handle, and then asks the instance behind it.
Several things can be wrong at once, and the first of them decides: a missing buffer, a buffer
that is too long, a handle that is not live. None of these reaches an engine. Otherwise the
instance is asked once, about the bytes of the buffer and the declared size, whether or not
they fit together, and the reply says how it answered.

`HostSession.ClassifyEnds` is the whole call, one case for each end, with the session that
it leaves and the requests that it makes.

* `ClassifyReply.answers_settle`: the answer of an engine, as the host is told.
* `classifyEnds`: one classify, in any session that shares no instance between handles.
* `classify_by_stage`: a classify after any calls.
-/

set_option autoImplicit false

namespace ClassifierBridge

/-! ### The answer -/

/-- An instance is left as the engine leaves it. -/
theorem Classifier.engine_classify {F E : Type} (family : EngineFamily F E) (engine : E)
    (frame : Frame) :
    (family.classify engine frame).2 = (Classifier.classify family engine frame).2.1 := by
  simp only [Classifier.classify]
  rcases family.classify engine frame with ⟨_ | _ | _, _⟩ <;> rfl

namespace ClassifyReply

/-- How the host is told of the answer of an engine. A status is passed on, a panic becomes
one, and a result is handed over in full, unless one of its labels has a NUL: then the host is
told at which byte of the first such label the first NUL stands. -/
inductive Answers : Outcome EngineStatus Classification → ClassifyReply → Prop where
  | failed {status : EngineStatus} : Answers (.error status) (.ofFailure (.classification status))
  | brokeOff {p : Panic} :
      Answers (.panic p)
        (.ofFailure (.classification ⟨.internal, "engine panicked: " ++ p.reason⟩))
  | nulInLabel {answer : Classification} {before later : List String} {label : String}
      (hsplit : answer.labels = before ++ label :: later)
      (hfirst : ∀ l ∈ before, '\x00' ∉ l.toList) (hnul : '\x00' ∈ label.toList) :
      Answers (.ok answer)
        (.ofFailure (.invalidArgument (.nulInLabel ((Utf8.encode label.toList).idxOf 0))))
  | success {answer : Classification} {reply : ClassifyReply}
      (hreadable : ∀ label ∈ answer.labels, '\x00' ∉ label.toList)
      (hverdict : reply.verdict = .good)
      (hread : reply.read = .ok (answer.groups.map fun g =>
        ⟨g.head, g.categories.map fun c => ⟨c.label, c.score⟩⟩)) :
      Answers (.ok answer) reply

/-- Of some labels none has a NUL or there is a first one. -/
theorem exists_first_nul (labels : List String) :
    (∀ label ∈ labels, '\x00' ∉ label.toList)
      ∨ ∃ before label later, labels = before ++ label :: later
        ∧ (∀ l ∈ before, '\x00' ∉ l.toList) ∧ '\x00' ∈ label.toList := by
  cases hfind : labels.find? fun label => decide ('\x00' ∈ label.toList) with
  | none =>
      rw [List.find?_eq_none] at hfind
      exact .inl fun label hlabel => by simpa using hfind label hlabel
  | some label =>
      obtain ⟨hnul, before, later, hsplit, hbefore⟩ := List.find?_eq_some_iff_append.mp hfind
      refine .inr ⟨before, label, later, hsplit, fun l hl => ?_, of_decide_eq_true hnul⟩
      simpa using hbefore l hl

/-- The reply to a classify that asked an instance tells its answer. -/
theorem answers_settle {E F : Type} (family : EngineFamily F E) (engine : E) (frame : Frame) :
    Answers (family.classify engine frame).1
      (ofResult (HostSession.settle .classification
        (Classifier.classify family engine frame).1).1) := by
  simp only [Classifier.classify]
  rcases family.classify engine frame with ⟨answer | status | p, engine'⟩
  -- Only a result is looked at again, label by label.
  · show Answers (.ok answer) (ofResult (.ok answer.records))
    obtain ⟨hgood, hbad⟩ := ofResult_answer answer
    rcases exists_first_nul answer.labels with
      hreadable | ⟨before, label, later, hsplit, hbefore, hnul⟩
    · exact .success hreadable (hgood hreadable).1 (hgood hreadable).2
    · rw [hbad before label later hsplit hbefore hnul]
      exact .nulInLabel hsplit hbefore hnul
  · exact .failed
  · exact .brokeOff

end ClassifyReply

/-! ### The whole call -/

namespace HostSession

variable {F E : Type} (family : EngineFamily F E)

/-- How a classify ends: with the reply, the session after it and the requests made. A call
that is refused for its buffer or for its handle changes nothing and asks nobody. Otherwise
the instance behind the handle is asked once, about the bytes of the buffer and the declared
size; it may be another one afterwards, and everything else is as it was. -/
inductive ClassifyEnds (now : HostSession F E) (handle : UInt64) (pixels : HostPixels)
    (size : Dimension) : ClassifyReply → HostSession F E → Asked → Prop where
  | nullPixels (hmissing : pixels.Missing) :
      ClassifyEnds now handle pixels size
        (.ofFailure (.invalidArgument .nullPixels)) now .nothing
  | tooManyPixels (hthere : ¬ pixels.Missing) (hlong : HostPixels.lengthLimit < pixels.length) :
      ClassifyEnds now handle pixels size
        (.ofFailure (.invalidArgument .tooManyPixels)) now .nothing
  | invalidHandle (hthere : ¬ pixels.Missing) (hshort : pixels.length ≤ HostPixels.lengthLimit)
      (hdead : now.registry.contains handle = false) :
      ClassifyEnds now handle pixels size (.ofFailure (.invalidHandle handle)) now .nothing
  | reached {ref : Nat} {engine engine' : E} {data : ByteArray}
      {answer : Outcome EngineStatus Classification} {reply : ClassifyReply}
      (hthere : ¬ pixels.Missing) (hshort : pixels.length ≤ HostPixels.lengthLimit)
      (hlive : now.registry.ref? handle = some ref)
      (hbehind : now.registry.pool.engine? ref = some engine)
      (hbytes : pixels.Holds → pixels.Carries data)
      (hasked : family.classify engine { data, dimension := size } = (answer, engine'))
      (htold : ClassifyReply.Answers answer reply) :
      ClassifyEnds now handle pixels size reply
        { now with registry := { now.registry with pool := now.registry.pool.update ref engine' } }
        (.onceOf ref { data, dimension := size })

/-- One classify. -/
theorem classifyEnds {s : HostSession F E} (hs : s.registry.Exclusive) (handle : UInt64)
    (pixels : HostPixels) (size : Dimension) :
    ClassifyEnds family s handle pixels size
      (.ofResult (s.classify family handle pixels size).1)
      (s.classify family handle pixels size).2.1
      (s.asked family (.classify handle pixels size)) := by
  rw [asked_classify]
  simp only [classify, Registry.classify]
  -- The stages in their order: the buffer, then the handle, then the instance.
  rcases pixels.read_cases with
    ⟨hmissing, hread⟩ | ⟨hthere, hlong, hread⟩ | ⟨hthere, hshort, data, hread⟩
  · simp only [hread]
    exact .nullPixels hmissing
  · simp only [hread]
    exact .tooManyPixels hthere hlong
  · simp only [hread]
    cases hlive : s.registry.ref? handle with
    | none =>
        have hfind : s.registry.find handle = none := by simp [Registry.find, hlive]
        simp only [hfind]
        exact .invalidHandle hthere hshort (by simp [Registry.contains, hlive])
    | some ref =>
        obtain ⟨engine, hbehind⟩ := hs.exists_engine hlive
        simp only [Registry.find_eq_some_iff.mpr ⟨hlive, hbehind⟩]
        -- The engine's own answer and what it makes of the instance, without the records.
        rw [← Classifier.engine_classify family engine]
        exact .reached hthere hshort hlive hbehind (HostPixels.carries_of_read hread) rfl
          (ClassifyReply.answers_settle family engine _)

/-- Two sessions that differ in the instance behind one handle, if at all. -/
structure SameBut (handle : UInt64) (now next : HostSession F E) : Prop where
  entries : next.registry.entries = now.registry.entries
  nextHandle : next.registry.next = now.registry.next
  factory : next.factory = now.factory
  filter : next.filter = now.filter
  others : ∀ other ≠ handle, next.registry.instance? other = now.registry.instance? other

/-- A session differs from itself in nothing. -/
theorem SameBut.refl (handle : UInt64) (now : HostSession F E) : now.SameBut handle now :=
  ⟨rfl, rfl, rfl, rfl, fun _ _ => rfl⟩

/-- However a classify ends, it touches no other instance. -/
theorem ClassifyEnds.sameBut {family : EngineFamily F E} {now next : HostSession F E}
    {handle : UInt64} {pixels : HostPixels} {size : Dimension} {reply : ClassifyReply}
    {asked : Asked} (hs : now.registry.Exclusive)
    (h : ClassifyEnds family now handle pixels size reply next asked) :
    now.SameBut handle next := by
  cases h with
  | nullPixels hmissing => exact .refl handle now
  | tooManyPixels hthere hlong => exact .refl handle now
  | invalidHandle hthere hshort hdead => exact .refl handle now
  | reached hthere hshort hlive hbehind hbytes hasked htold =>
      -- Other handles stand for other instances, as handles are exclusive.
      refine ⟨rfl, rfl, rfl, rfl, fun other hother => ?_⟩
      exact (hs.instance?_update (Registry.find_eq_some_iff.mpr ⟨hlive, hbehind⟩) _ other).trans
        (if_neg hother)

/-- Take any run from a registry without entries and a classify after it. The first of its
stages that fails decides how it ends and whom it asks; if none does, the instance behind the
handle is asked once. In every case the entries, the next handle and the installed factory are
what they were, and so are the instances behind all other handles. -/
theorem classify_by_stage {s : HostSession F E} (hentries : s.registry.entries = [])
    (calls : List (HostCall F)) (handle : UInt64) (pixels : HostPixels) (size : Dimension) :
    let now := s.after family calls
    let call := HostCall.classify handle pixels size
    let next := (now.step family call).2.1
    ∃ reply, (now.step family call).1 = .classify reply
      ∧ ClassifyEnds family now handle pixels size reply next (now.asked family call)
      ∧ now.SameBut handle next := by
  intro now call next
  have hs : now.registry.Exclusive := exclusive_after family (.of_entries_eq_nil hentries) calls
  have hends : ClassifyEnds family now handle pixels size _ next _ :=
    classifyEnds family hs handle pixels size
  exact ⟨_, rfl, hends, hends.sameBut hs⟩

/-- A missing buffer of too great a length for a handle that is not live, and then three bytes
for an image of four pixels. -/
theorem classify_by_stage_short_buffer :
    let s : HostSession SampleFactory SampleEngine := {}
    let script : Script := ⟨.ok (), [.error ⟨.invalidArgument, "short"⟩]⟩
    let calls : List (HostCall SampleFactory) :=
      [.install (.script script), .init {} (.structure none)]
    let now := s.after sampleFamily calls
    let missing : HostPixels := ⟨none, HostPixels.lengthLimit + 1⟩
    let three : HostPixels := ⟨some ⟨#[1, 2, 3, 4]⟩, 3⟩
    s.registry.entries = []
      ∧ (now.step sampleFamily (.classify 7 missing ⟨2, 2⟩)).1
        = .classify (.ofFailure (.invalidArgument .nullPixels))
      ∧ now.asked sampleFamily (.classify 7 missing ⟨2, 2⟩) = .nothing
      ∧ (now.step sampleFamily (.classify 1 three ⟨2, 2⟩)).1
        = .classify (.ofFailure (.classification ⟨.invalidArgument, "short"⟩))
      ∧ ∃ data : ByteArray, data.size = 3 ∧ now.asked sampleFamily (.classify 1 three ⟨2, 2⟩)
        = .onceOf 0 { data, dimension := ⟨2, 2⟩ } := by
  intro s script calls now missing three
  obtain ⟨reply, hreply, hends, -⟩ :=
    classify_by_stage sampleFamily (s := s) rfl calls 7 missing ⟨2, 2⟩
  obtain ⟨reply', hreply', hends', -⟩ :=
    classify_by_stage sampleFamily (s := s) rfl calls 1 three ⟨2, 2⟩
  have hmissing : missing.Missing := ⟨rfl, by decide⟩
  have hthere : ¬ three.Missing := nofun
  have hlive : now.registry.ref? 1 = some 0 := rfl
  have hbehind : now.registry.pool.engine? 0 = some (.script ⟨script, 0⟩) := rfl
  rw [hreply, hreply']
  generalize (now.step sampleFamily (.classify 7 missing ⟨2, 2⟩)).2.1 = next at hends
  generalize (now.step sampleFamily (.classify 1 three ⟨2, 2⟩)).2.1 = next' at hends'
  generalize now.asked sampleFamily (.classify 7 missing ⟨2, 2⟩) = asked at hends ⊢
  generalize now.asked sampleFamily (.classify 1 three ⟨2, 2⟩) = asked' at hends' ⊢
  cases hends with
  | tooManyPixels hthere' hlong => exact absurd hmissing hthere'
  | invalidHandle hthere' hshort hdead => exact absurd hmissing hthere'
  | reached hthere' hshort hlive' hbehind' hbytes hasked htold => exact absurd hmissing hthere'
  | nullPixels hmissing' =>
      refine ⟨rfl, rfl, rfl, ?_⟩
      cases hends' with
      | nullPixels hmissing' => exact absurd hmissing' hthere
      | tooManyPixels hthere' hlong => exact absurd hlong (by decide)
      | invalidHandle hthere' hshort hdead => cases hdead
      | reached hthere' hshort hlive' hbehind' hbytes hasked htold =>
          rw [hlive] at hlive'
          cases hlive'
          rw [hbehind] at hbehind'
          cases hbehind'
          cases hasked
          cases htold
          exact ⟨rfl, _, (hbytes (by rintro _ ⟨⟩; decide)).size_eq, rfl⟩

end HostSession

end ClassifierBridge
