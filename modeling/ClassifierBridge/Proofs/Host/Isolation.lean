import ClassifierBridge.Engines.Sample
import ClassifierBridge.Owner
import ClassifierBridge.Proofs.Host.Reply
import ClassifierBridge.Proofs.Host.Run

/-!
# `ClassifierBridge.Proofs.Host.Isolation`: each handle as if it were alone

A host that classifies through a handle gets what a program gets that owns the
classifier itself. The program's side is a run of the owner (`Owner.run`): it
creates one classifier with the factory, the settings and the model of the init
that issued the handle, and hands it the same frames. The host's side is
`HostSession.served`: the calls on the handle that reach its instance, picked out
of any run whatever.

* `Shows`: what of an answer the host can see in a reply.
* `shows_settle`: one answer, shown.
* `shows_served`: the answers along a run, from the moment on when both sides
  have the same instance.
* `served_shows_owner`: the answers to the calls on a handle are those of its
  private classifier, from its init on.

The message of a failure reaches the host in full unless it has a NUL
(`failure_text_not_in_full`).
-/

set_option autoImplicit false

namespace ClassifierBridge

/-! ### The two sides -/

namespace Owner

variable {F E : Type}

/-- Answers calls one after the other. -/
def run (family : EngineFamily F E) (pool : Pool E) : List (OwnerCall F) → List OwnerReply
  | [] => []
  | call :: calls => (step family pool call).1 :: run family (step family pool call).2.1 calls

/-- The answer that an outcome makes. -/
def answer : Outcome Failure (List HeadRecord) → OwnerReply
  | .ok records => .records records
  | .error failure => .failed failure
  | .panic p => .panicked p

/-- The first call is answered, and the others after it. -/
theorem run_cons (family : EngineFamily F E) (pool : Pool E) (call : OwnerCall F)
    (calls : List (OwnerCall F)) :
    run family pool (call :: calls)
      = (step family pool call).1 :: run family (step family pool call).2.1 calls := rfl

/-- A classifier that is there answers and stays, in its new state. -/
theorem run_classify_cons (family : EngineFamily F E) {pool : Pool E} {number : Nat} {engine : E}
    (h : pool.engine? number = some engine) (frame : Frame) (calls : List (OwnerCall F)) :
    run family pool (.classify number frame :: calls)
      = answer (Classifier.classify family engine frame).1
        :: run family (pool.update number (Classifier.classify family engine frame).2.1) calls := by
  have hstep : step family pool (.classify number frame)
      = (answer (Classifier.classify family engine frame).1,
        pool.update number (Classifier.classify family engine frame).2.1,
        (Classifier.classify family engine frame).2.2) := by
    simp only [step, h]
    rfl
  rw [run_cons, hstep]

/-- A classifier that could be made is there under number zero. -/
theorem run_create_cons (family : EngineFamily F E) {factory : F} {settings : Settings}
    {model : ModelRegion} {engine : E}
    (h : (Classifier.create family factory settings model).1 = .ok engine)
    (calls : List (OwnerCall F)) :
    run family {} (.create factory settings model :: calls)
      = .created 0 :: run family (({} : Pool E).adopt engine).2 calls := by
  have hstep : (step family {} (.create factory settings model)).1 = .created 0
      ∧ (step family {} (.create factory settings model)).2.1 = (({} : Pool E).adopt engine).2 := by
    simp only [step]
    obtain ⟨factory', events, hcreate⟩ : ∃ factory' events,
        Classifier.create family factory settings model = (.ok engine, factory', events) :=
      ⟨_, _, Prod.ext h rfl⟩
    rw [hcreate]
    exact ⟨rfl, rfl⟩
  rw [run_cons, hstep.1, hstep.2]

end Owner

/-- The host sees the failure: no result, the kind of the failure, and its message,
or the fixed text where the message has a NUL. -/
structure ShowsFailure (failure : Failure) (reply : ClassifyReply) : Prop where
  success : reply.verdict.success = false
  errorKind : reply.verdict.errorKind = failure.kind.code
  text : reply.verdict.text = some (if '\x00' ∈ failure.message.toList
    then ClassifyReply.fallback else failure.message)
  heads : reply.heads.items = none ∧ reply.heads.length = 0

/-- What the host sees of an answer: the records of a result, if no label has a
NUL, and the failure that names the first NUL otherwise; the failure of a call
that failed. An answer that broke off is shown as a failure of the engine. -/
inductive Shows : OwnerReply → HostReply → Prop where
  | records {records : List HeadRecord} {reply : ClassifyReply}
      (hreadable : firstNul? (labelsOf records) = none)
      (hverdict : reply.verdict = .good) (hsame : reply.records = records) :
      Shows (.records records) (.classify reply)
  | nulInLabel {records : List HeadRecord} {position : Nat} {reply : ClassifyReply}
      (hfirst : firstNul? (labelsOf records) = some position)
      (hshown : ShowsFailure (.invalidArgument (.nulInLabel position)) reply) :
      Shows (.records records) (.classify reply)
  | failed {failure : Failure} {reply : ClassifyReply} (hshown : ShowsFailure failure reply) :
      Shows (.failed failure) (.classify reply)
  | panicked {p : Panic} {reply : ClassifyReply}
      (hshown : ShowsFailure (.classification (HostSession.panicStatus p)) reply) :
      Shows (.panicked p) (.classify reply)

/-- A failed classification shows its failure. -/
theorem showsFailure_ofFailure (failure : Failure) :
    ShowsFailure failure (ClassifyReply.ofFailure failure) :=
  ⟨rfl, rfl, ClassifyReply.text_ofFailure failure, rfl, rfl⟩

/-- One answer, shown to the host. -/
theorem shows_settle (outcome : Outcome Failure (List HeadRecord)) :
    Shows (Owner.answer outcome)
      (.classify (ClassifyReply.ofResult (HostSession.settle .classification outcome).1)) := by
  cases outcome with
  | error failure => exact .failed (showsFailure_ofFailure failure)
  | panic p => exact .panicked (showsFailure_ofFailure _)
  | ok records =>
      show Shows (.records records) (.classify (ClassifyReply.ofRecords records))
      cases hnul : firstNul? (labelsOf records) with
      | none =>
          obtain ⟨hverdict, hrecords⟩ := ClassifyReply.records_ofRecords hnul
          exact .records hnul hverdict hrecords
      | some position =>
          rw [ClassifyReply.ofRecords_of_firstNul? hnul]
          exact .nulInLabel hnul (showsFailure_ofFailure _)

namespace HostSession

variable {F E : Type} (family : EngineFamily F E)

/-- The calls on a handle that reach its instance, each as the frame that it hands
over and the reply that it gets, up to the time when the handle is issued anew. (A
handle is issued anew only after all others were.) -/
def served (handle : UInt64) (s : HostSession F E) : List (HostCall F) → List (Frame × HostReply)
  | [] => []
  | call :: calls =>
    if (s.step family call).1.issued? = some handle then []
    else
      match s.frameFor? handle call with
      | some frame =>
        (frame, (s.step family call).1) :: served handle (s.step family call).2.1 calls
      | none => served handle (s.step family call).2.1 calls

/-! ### Side by side -/

/-- Along any run, the private classifier answers what the host is shown. The two
sides have the same instance, or the host has released its handle and asks no more:
no other call of the run can change that. -/
theorem shows_served (handle : UInt64) (calls : List (HostCall F)) {s : HostSession F E}
    {pool : Pool E} {engine : E} (hs : s.registry.Exclusive)
    (hpool : pool.engine? 0 = some engine)
    (hsame : s.registry.instance? handle = some engine ∨ s.registry.instance? handle = none) :
    List.Forall₂ Shows
      (Owner.run family pool ((served family handle s calls).map fun c => .classify 0 c.1))
      ((served family handle s calls).map Prod.snd) := by
  -- The induction is on the calls, with both sides moved on. It is carried by the same instance
  -- on both sides, for as long as the handle is live.
  induction calls generalizing s pool engine with
  | nil => exact .nil
  | cons call calls ih =>
      have hs' := exclusive_step family hs call
      unfold served
      split
      · exact .nil
      · next hissue =>
          split
          · next frame hframe =>
              obtain ⟨engine', hlive, hreply, hnext⟩ := step_of_frameFor? family hs hframe
              have hengine : engine' = engine := by
                rcases hsame with h | h <;> rw [hlive] at h <;> cases h
                rfl
              subst hengine
              rw [List.map_cons, List.map_cons, Owner.run_classify_cons family hpool]
              have hpool' : (pool.update 0 (Classifier.classify family engine' frame).2.1).engine? 0
                  = some (Classifier.classify family engine' frame).2.1 := by
                rw [Pool.engine?_update hpool, if_pos rfl]
              refine .cons ?_ (ih hs' hpool' (.inl ?_))
              · rw [hreply]
                exact shows_settle _
              · rw [hnext, if_pos rfl]
          · next hframe =>
              refine ih hs' hpool ?_
              -- Only a release of this handle takes the instance away.
              by_cases hdeinit : call = .deinit handle
              · rw [hdeinit]
                exact .inr (instance?_deinit family hs handle)
              · rw [instance?_step_of_other family hs hissue hdeinit hframe]
                exact hsame

/-- Take any run from a registry without entries, any init in it that issued a
handle, and the calls on this handle that reach its instance. There is a factory
that was installed at the init, and the init had settings; and a program that owns
a classifier made by this factory with these settings and this model, and hands it
the same frames, gets the answers that the host is shown, one by one. Calls that
break off count on both sides. -/
theorem served_shows_owner {s : HostSession F E} (hentries : s.registry.entries = [])
    (before later : List (HostCall F)) (model : ModelRegion) (source : SettingsSource)
    (handle : UInt64)
    (hissued : ((s.after family before).step family (.init model source)).1.issued?
      = some handle) :
    let calls := served family handle (s.after family (before ++ [.init model source])) later
    ∃ settings factory answers, source.read = .ok settings
      ∧ (s.after family before).factory = some factory
      ∧ Owner.run family {} (.create factory settings model
          :: calls.map fun c => .classify 0 c.1) = .created 0 :: answers
      ∧ List.Forall₂ Shows answers (calls.map Prod.snd) := by
  intro calls
  have hs := exclusive_after family (.of_entries_eq_nil hentries) before
  obtain ⟨settings, factory, engine, hsource, hfactory, hcreate, -, -, hnext⟩ :=
    instance?_init family hs hissued
  refine ⟨settings, factory, _, hsource, hfactory, Owner.run_create_cons family hcreate _, ?_⟩
  have hafter : s.after family (before ++ [.init model source])
      = ((s.after family before).step family (.init model source)).2.1 := by
    rw [after_append]
    rfl
  have hpool : (({} : Pool E).adopt engine).2.engine? 0 = some engine := by
    rw [Pool.engine?_adopt]
    rfl
  -- After the init both sides hold the instance that the factory made.
  refine shows_served family handle later ?_ hpool (.inl ?_)
  · rw [hafter]
    exact exclusive_step family hs _
  · rw [hafter, hnext, if_pos rfl]

/-- A script that answers, fails and breaks off in turn, and a second classifier
that is used and released in between. -/
theorem served_shows_owner_script :
    let script : Script :=
      ⟨.ok (), [.ok {}, .error ⟨.notFound, "lost"⟩, .panic (.text "broken")]⟩
    let s : HostSession SampleFactory SampleEngine := {}
    let before : List (HostCall SampleFactory) :=
      [.install .brightness, .init {} (.structure none), .install (.script script)]
    let ask (handle : UInt64) : HostCall SampleFactory := .classify handle ⟨none, 0⟩ ⟨0, 0⟩
    let later := [ask 2, ask 1, .install .echo, ask 2, .deinit 1, ask 2, ask 1, ask 2]
    let calls := served sampleFamily 2
      (s.after sampleFamily (before ++ [.init {} (.structure none)])) later
    (s.registry.entries = []
      ∧ ((s.after sampleFamily before).step sampleFamily (.init {} (.structure none))).1.issued?
        = some 2)
    ∧ ∃ settings factory answers, SettingsSource.read (.structure none) = .ok settings
      ∧ (s.after sampleFamily before).factory = some factory
      ∧ Owner.run sampleFamily {} (.create factory settings {}
          :: calls.map fun c => .classify 0 c.1) = .created 0 :: answers
      ∧ List.Forall₂ Shows answers (calls.map Prod.snd) := by
  intro script s before ask later calls
  have hissued : ((s.after sampleFamily before).step sampleFamily
      (.init {} (.structure none))).1.issued? = some 2 := by decide
  exact ⟨⟨rfl, hissued⟩, served_shows_owner sampleFamily rfl before later _ _ 2 hissued⟩

/-- The message of a failure does not always reach the host in full: one with a NUL
is replaced as a whole, while the owner of a classifier gets it as it is. -/
theorem failure_text_not_in_full :
    let status : EngineStatus := ⟨.internal, "a\x00b"⟩
    let script : Script := ⟨.ok (), [.error status]⟩
    let s : HostSession SampleFactory SampleEngine := {}
    let calls : List (HostCall SampleFactory) :=
      [.install (.script script), .init {} (.structure none), .classify 1 ⟨none, 0⟩ ⟨0, 0⟩]
    ∃ reply, (s.replies sampleFamily calls).getLast? = some (.classify reply)
      ∧ Owner.run sampleFamily {}
          [.create (.script script) {} {}, .classify 0 { data := .empty, dimension := ⟨0, 0⟩ }]
        = [.created 0, .failed (.classification status)]
      ∧ reply.verdict.text ≠ some (Failure.classification status).message := by
  intro status script s calls
  refine ⟨ClassifyReply.ofFailure (.classification status), rfl, rfl, ?_⟩
  -- What is shown is the fallback, which is another text.
  rw [ClassifyReply.text_ofFailure]
  decide

end HostSession

end ClassifierBridge
