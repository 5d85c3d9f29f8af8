import ClassifierBridge.Engines.Sample
import ClassifierBridge.Proofs.Host.Events
import ClassifierBridge.Proofs.Host.Handles

/-!
# `ClassifierBridge.Proofs.Host.Discretion`: what the log keeps to itself

Pixels, labels, scores, configured names and the words of an engine never reach the log.
The statement is about two processes side by side, with engines of any two kinds. The host
makes alike calls to both, and the engines give alike answers: what is kept private may
differ, what the log shows may not. Then the two logs are the same.

* `HostCall.Alike`, `Outcome.Alike`: what may differ in a call and in an answer.
* `RunsAlike`: two runs, call by call.
* `InStep`: two sessions that look the same to the log. The instances behind the handles
  are not compared.
* `init_alike`, `classify_alike`, `step_alike`: one call on either side.
* `events_of_runsAlike`: two whole runs.
-/

set_option autoImplicit false

namespace ClassifierBridge

/-! ### What may differ -/

/-- Two buffers that differ in their bytes. -/
structure HostPixels.Alike (p p' : HostPixels) : Prop where
  memory_eq : p.memory.map ByteArray.size = p'.memory.map ByteArray.size
  length_eq : p.length = p'.length

/-- Settings that are accepted on both sides and differ in the locale and in the names, or
that are refused on both sides. -/
inductive SettingsSource.Alike (source source' : SettingsSource) : Prop where
  | accepted {settings settings' : Settings} (hread : source.read = .ok settings)
      (hread' : source'.read = .ok settings') (hmax : settings.maxResults = settings'.maxResults)
      (hthreshold : settings.threshold = settings'.threshold)
  | refused {failure failure' : Failure} (hread : source.read = .error failure)
      (hread' : source'.read = .error failure')

/-- Two calls that differ in the bytes of a buffer, in the locale and the names of the
settings, or in the factory that is installed. -/
inductive HostCall.Alike {F F' : Type} : HostCall F → HostCall F' → Prop where
  | install (factory : F) (factory' : F') : Alike (.install factory) (.install factory')
  | init (model : ModelRegion) {source source' : SettingsSource} (h : source.Alike source') :
      Alike (.init model source) (.init model source')
  | classify (handle : UInt64) (size : Dimension) {pixels pixels' : HostPixels}
      (h : pixels.Alike pixels') :
      Alike (.classify handle pixels size) (.classify handle pixels' size)
  | deinit (handle : UInt64) : Alike (.deinit handle) (.deinit handle)
  | liveHandles : Alike .liveHandles .liveHandles
  | initLogging (filter : HostText) : Alike (.initLogging filter) (.initLogging filter)

/-- Two answers of the same kind: results that `Same` relates, statuses with the same code
and any message, or panics for the same reason. -/
inductive Outcome.Alike {α β : Type} (Same : α → β → Prop) :
    Outcome EngineStatus α → Outcome EngineStatus β → Prop where
  | ok {value : α} {value' : β} (h : Same value value') : Alike Same (.ok value) (.ok value')
  | error {status status' : EngineStatus} (h : status.code = status'.code) :
      Alike Same (.error status) (.error status')
  | panic {p p' : Panic} (h : p.reason = p'.reason) : Alike Same (.panic p) (.panic p')

/-- Two classifications with the same number of groups, whatever is in the groups. -/
def Classification.Alike (answer answer' : Classification) : Prop :=
  answer.groups.length = answer'.groups.length

namespace HostSession

variable {F E F' E' : Type} (family : EngineFamily F E) (family' : EngineFamily F' E')

/-- What the factory answers to a call, if the call reaches it. -/
def made? (s : HostSession F E) : HostCall F → Option (Outcome EngineStatus E)
  | .init model source =>
    (s.reached? source).map fun (settings, factory) =>
      (family.create factory (settings.engineConfig model)).1
  | _ => none

/-- What an instance answers to a call, if the call reaches it. -/
def said? (s : HostSession F E) : HostCall F → Option (Outcome EngineStatus Classification)
  | .classify handle pixels size =>
    pixels.read.toOption.bind fun data => s.answer? family handle { data, dimension := size }
  | _ => none

/-- Where both calls are answered by an engine, the answers are alike. -/
structure AnswersAlike (s : HostSession F E) (s' : HostSession F' E') (call : HostCall F)
    (call' : HostCall F') : Prop where
  made : ∀ made made', s.made? family call = some made → s'.made? family' call' = some made' →
    made.Alike (fun _ _ => True) made'
  said : ∀ said said', s.said? family call = some said → s'.said? family' call' = some said' →
    said.Alike Classification.Alike said'

/-- Two runs that differ in private things only: alike calls, alike answers. -/
inductive RunsAlike : HostSession F E → HostSession F' E' → List (HostCall F) →
    List (HostCall F') → Prop where
  | nil (s : HostSession F E) (s' : HostSession F' E') : RunsAlike s s' [] []
  | cons {s : HostSession F E} {s' : HostSession F' E'} {call : HostCall F}
      {call' : HostCall F'} {calls : List (HostCall F)} {calls' : List (HostCall F')}
      (hcall : call.Alike call') (hanswers : AnswersAlike family family' s s' call call')
      (hrest : RunsAlike (s.step family call).2.1 (s'.step family' call').2.1 calls calls') :
      RunsAlike s s' (call :: calls) (call' :: calls')

/-- Two sessions that the log cannot tell apart: the same handles are live, the same handle
is next, and there is a factory in both or in none. -/
structure InStep (s : HostSession F E) (s' : HostSession F' E') : Prop where
  exclusive : s.registry.Exclusive
  exclusive' : s'.registry.Exclusive
  next_eq : s.registry.next = s'.registry.next
  contains_eq : ∀ handle, s.registry.contains handle = s'.registry.contains handle
  factory_eq : s.factory.isSome = s'.factory.isSome

end HostSession

/-! ### Alike arguments and answers -/

/-- Two options with something in both or in neither. -/
theorem cases_of_isSome_eq {α β : Type} {a : Option α} {b : Option β}
    (h : a.isSome = b.isSome) :
    (a = none ∧ b = none) ∨ ∃ x y, a = some x ∧ b = some y := by
  cases a with
  | none =>
      cases b with
      | none => exact .inl ⟨rfl, rfl⟩
      | some y => cases h
  | some x =>
      cases b with
      | none => cases h
      | some y => exact .inr ⟨x, y, rfl, rfl⟩

/-- Alike buffers are refused together, or they hold equally many bytes. -/
theorem HostPixels.Alike.read_cases {p p' : HostPixels} (h : p.Alike p') :
    (∃ fault, p.read = .error fault ∧ p'.read = .error fault)
      ∨ ∃ data data', p.read = .ok data ∧ p'.read = .ok data' ∧ data.size = data'.size := by
  obtain ⟨memory, length⟩ := p
  obtain ⟨memory', length'⟩ := p'
  obtain ⟨hmemory, rfl⟩ := h
  unfold HostPixels.read
  -- Only null pointers and lengths decide, and both sides have the same.
  cases memory with
  | none =>
      rw [Option.map_none, eq_comm, Option.map_eq_none_iff] at hmemory
      rw [show memory' = none from hmemory]
      dsimp only
      split
      · exact .inl ⟨_, rfl, rfl⟩
      · exact .inr ⟨_, _, rfl, rfl, rfl⟩
  | some bytes =>
      obtain ⟨bytes', rfl, hsize⟩ := Option.map_eq_some_iff.mp hmemory.symm
      dsimp only
      split
      · exact .inl ⟨_, rfl, rfl⟩
      · refine .inr ⟨_, _, rfl, rfl, ?_⟩
        rw [ByteArray.size_extract, ByteArray.size_extract, hsize]

/-- The making of an instance ends in the same event. -/
theorem Outcome.Alike.ofCreation_eq {E E' : Type} {Same : E → E' → Prop}
    {made : Outcome EngineStatus E} {made' : Outcome EngineStatus E'} (h : made.Alike Same made')
    (next : UInt64) : Event.ofCreation next made = Event.ofCreation next made' := by
  cases h with
  | ok h => rfl
  | error h => exact congrArg Event.creationFailed h
  | panic h => exact congrArg Event.enginePanicked h

/-- The making of an instance uses up the same handle. -/
theorem Outcome.Alike.issued?_eq {E E' : Type} {Same : E → E' → Prop}
    {made : Outcome EngineStatus E} {made' : Outcome EngineStatus E'} (h : made.Alike Same made')
    (next : UInt64) : made.issued? next = made'.issued? next := by
  cases h <;> rfl

/-- A classification ends in the same event. -/
theorem Outcome.Alike.ofAnswer_eq {said said' : Outcome EngineStatus Classification}
    (h : said.Alike Classification.Alike said') (handle : UInt64) (size : Dimension) :
    Event.ofAnswer handle size (some said) = Event.ofAnswer handle size (some said') := by
  cases h with
  | ok h => exact congrArg (Event.classified size) h
  | error h => exact congrArg (Event.classificationFailed size) h
  | panic h => exact congrArg Event.enginePanicked h

namespace HostSession

variable {F E F' E' : Type} (family : EngineFamily F E) (family' : EngineFamily F' E')

/-! ### One call on either side -/

/-- Only an `install` changes whether there is a factory. -/
theorem isSome_factory_step (s : HostSession F E) (call : HostCall F) :
    (s.step family call).2.1.factory.isSome
      = (s.factory.isSome || call matches .install _) := by
  cases call with
  | install factory => simp [step]
  | _ =>
      rw [factory_step family s, Option.isSome_map]
      · exact (Bool.or_false _).symm
      · nofun

/-- Two sessions stay in step if alike calls issue the same handle. -/
theorem InStep.step {s : HostSession F E} {s' : HostSession F' E'} (hs : InStep s s')
    {call : HostCall F} {call' : HostCall F'} (hcall : call.Alike call')
    (hissued : (s.step family call).1.issued? = (s'.step family' call').1.issued?) :
    InStep (s.step family call).2.1 (s'.step family' call').2.1 := by
  have hfactory : (s.step family call).2.1.factory.isSome
      = (s'.step family' call').2.1.factory.isSome := by
    rw [isSome_factory_step, isSome_factory_step, hs.factory_eq]
    cases hcall <;> rfl
  have hdeinit : ∀ handle, call ≠ .deinit handle ↔ call' ≠ .deinit handle := by
    intro handle
    cases hcall with
    | deinit target => simp
    | _ => exact iff_of_true nofun nofun
  have hcontains {r : Registry E} {r' : Registry E'}
      (h : ∀ handle, r.contains handle = true ↔ r'.contains handle = true) (handle : UInt64) :
      r.contains handle = r'.contains handle := Bool.eq_iff_iff.mpr (h handle)
  -- The handle that was issued, or none, says what became of counter and entries.
  cases hnew : (s.step family call).1.issued? with
  | none =>
      obtain ⟨hnext, hlive⟩ := step_of_not_issued family hnew
      obtain ⟨hnext', hlive'⟩ := step_of_not_issued family' (hissued.symm.trans hnew)
      refine ⟨exclusive_step family hs.exclusive call, exclusive_step family' hs.exclusive' call',
        by rw [hnext, hnext', hs.next_eq], hcontains fun handle => ?_, hfactory⟩
      rw [hlive, hlive', hs.contains_eq, hdeinit]
  | some new =>
      obtain ⟨-, hnext, hlive, -⟩ := step_of_issued family hnew
      obtain ⟨-, hnext', hlive', -⟩ := step_of_issued family' (hissued.symm.trans hnew)
      refine ⟨exclusive_step family hs.exclusive call, exclusive_step family' hs.exclusive' call',
        by rw [hnext, hnext', hs.next_eq], hcontains fun handle => ?_, hfactory⟩
      rw [hlive, hlive', hs.contains_eq]

/-- Alike inits get as far as the factory together. -/
theorem InStep.reached?_cases {s : HostSession F E} {s' : HostSession F' E'} (hs : InStep s s')
    {source source' : SettingsSource} (h : source.Alike source') :
    (s.reached? source = none ∧ s'.reached? source' = none)
      ∨ ∃ settings settings' factory factory', s.reached? source = some (settings, factory)
        ∧ s'.reached? source' = some (settings', factory')
        ∧ settings.maxResults = settings'.maxResults
        ∧ settings.threshold = settings'.threshold := by
  unfold reached?
  cases h with
  | refused hread hread' =>
      rw [hread, hread']
      exact .inl ⟨rfl, rfl⟩
  | accepted hread hread' hmax hthreshold =>
      rw [hread, hread']
      rcases cases_of_isSome_eq hs.factory_eq with ⟨hnone, hnone'⟩ | ⟨factory, factory', hf, hf'⟩
      · rw [hnone, hnone']
        exact .inl ⟨rfl, rfl⟩
      · rw [hf, hf']
        exact .inr ⟨_, _, factory, factory', rfl, rfl, hmax, hthreshold⟩

/-- A handle leads to an instance on both sides or on neither. -/
theorem InStep.instance?_cases {s : HostSession F E} {s' : HostSession F' E'} (hs : InStep s s')
    (handle : UInt64) :
    (s.registry.instance? handle = none ∧ s'.registry.instance? handle = none)
      ∨ ∃ engine engine', s.registry.instance? handle = some engine
        ∧ s'.registry.instance? handle = some engine' := by
  refine cases_of_isSome_eq ?_
  rw [hs.exclusive.isSome_instance?, hs.exclusive'.isSome_instance?, hs.contains_eq]

/-- Alike inits write the same events and issue the same handle. -/
theorem init_alike {s : HostSession F E} {s' : HostSession F' E'} (hs : InStep s s')
    (model : ModelRegion) {source source' : SettingsSource} (h : source.Alike source')
    (hanswers : AnswersAlike family family' s s' (.init model source) (.init model source')) :
    (s.step family (.init model source)).2.2 = (s'.step family' (.init model source')).2.2
      ∧ (s.step family (.init model source)).1.issued?
        = (s'.step family' (.init model source')).1.issued? := by
  rcases hs.reached?_cases h with
    ⟨hnone, hnone'⟩ | ⟨settings, settings', factory, factory', hsome, hsome', hmax, hthreshold⟩
  · obtain ⟨hissued, hevents⟩ := step_init_of_not_reached family hnone model
    obtain ⟨hissued', hevents'⟩ := step_init_of_not_reached family' hnone' model
    exact ⟨hevents.trans hevents'.symm, hissued.trans hissued'.symm⟩
  · obtain ⟨hissued, hevents⟩ := step_init_of_reached? family hsome model
    obtain ⟨hissued', hevents'⟩ := step_init_of_reached? family' hsome' model
    -- The factory is asked on both sides, and its answers are alike.
    have hmade := hanswers.made _ _ (congrArg (Option.map _) hsome)
      (congrArg (Option.map _) hsome')
    constructor
    · rw [hevents, hevents', hmax, hthreshold, hs.next_eq, hmade.ofCreation_eq]
    · rw [hissued, hissued', hs.next_eq, hmade.issued?_eq]

/-- Alike classifies write the same events. -/
theorem classify_alike {s : HostSession F E} {s' : HostSession F' E'} (hs : InStep s s')
    (handle : UInt64) (size : Dimension) {pixels pixels' : HostPixels} (h : pixels.Alike pixels')
    (hanswers : AnswersAlike family family' s s' (.classify handle pixels size)
      (.classify handle pixels' size)) :
    (s.step family (.classify handle pixels size)).2.2
      = (s'.step family' (.classify handle pixels' size)).2.2 := by
  rcases h.read_cases with ⟨fault, hread, hread'⟩ | ⟨data, data', hread, hread', hsize⟩
  · rw [events_classify_of_unreadable family s handle size hread,
      events_classify_of_unreadable family' s' handle size hread']
  · rw [events_classify family s handle size hread, events_classify family' s' handle size hread',
      hsize]
    have hsaid := hanswers.said
    simp only [said?, hread, hread', Except.toOption, Option.bind_some, answer?] at hsaid
    unfold answer?
    -- The event shows the answer of an instance, or that there is none.
    rcases hs.instance?_cases handle with ⟨hnone, hnone'⟩ | ⟨engine, engine', hsome, hsome'⟩
    · rw [hnone, hnone', Option.map_none, Option.map_none]
    · rw [hsome, hsome'] at hsaid ⊢
      rw [Option.map_some, Option.map_some, (hsaid _ _ rfl rfl).ofAnswer_eq handle size]

/-- A call writes the same events on both sides, and it leaves the sessions in step. -/
theorem step_alike {s : HostSession F E} {s' : HostSession F' E'} (hs : InStep s s')
    {call : HostCall F} {call' : HostCall F'} (hcall : call.Alike call')
    (hanswers : AnswersAlike family family' s s' call call') :
    (s.step family call).2.2 = (s'.step family' call').2.2
      ∧ InStep (s.step family call).2.1 (s'.step family' call').2.1 := by
  -- Alike calls are of one kind, so there is one case for each.
  cases hcall with
  | install factory factory' => exact ⟨rfl, hs.step family family' (.install _ _) rfl⟩
  | init model h =>
      obtain ⟨hevents, hissued⟩ := init_alike family family' hs model h hanswers
      exact ⟨hevents, hs.step family family' (.init model h) hissued⟩
  | classify handle size h =>
      exact ⟨classify_alike family family' hs handle size h hanswers,
        hs.step family family' (.classify handle size h) rfl⟩
  | deinit handle =>
      refine ⟨?_, hs.step family family' (.deinit handle) rfl⟩
      rw [events_deinit, events_deinit, hs.contains_eq]
  | liveHandles => exact ⟨rfl, hs.step family family' .liveHandles rfl⟩
  | initLogging filter => exact ⟨rfl, hs.step family family' (.initLogging filter) rfl⟩

/-! ### Alike answers, call by call -/

/-- Nothing is asked of a call that reaches no engine. -/
theorem AnswersAlike.of_none {s : HostSession F E} {s' : HostSession F' E'} {call : HostCall F}
    {call' : HostCall F'} (hmade : s.made? family call = none)
    (hsaid : s.said? family call = none) : AnswersAlike family family' s s' call call' where
  made made made' h := by
    rw [hmade] at h
    cases h
  said said said' h := by
    rw [hsaid] at h
    cases h

/-- Two inits that reach the factory on both sides. -/
theorem AnswersAlike.of_made {s : HostSession F E} {s' : HostSession F' E'} {call : HostCall F}
    {call' : HostCall F'} {made : Outcome EngineStatus E} {made' : Outcome EngineStatus E'}
    (hmade : s.made? family call = some made) (hmade' : s'.made? family' call' = some made')
    (halike : made.Alike (fun _ _ => True) made') (hsaid : s.said? family call = none) :
    AnswersAlike family family' s s' call call' where
  made other other' h h' := by
    rw [hmade] at h
    rw [hmade'] at h'
    cases h
    cases h'
    exact halike
  said said said' h := by
    rw [hsaid] at h
    cases h

/-- Two classifies that reach an instance on both sides. -/
theorem AnswersAlike.of_said {s : HostSession F E} {s' : HostSession F' E'} {call : HostCall F}
    {call' : HostCall F'} {said said' : Outcome EngineStatus Classification}
    (hsaid : s.said? family call = some said) (hsaid' : s'.said? family' call' = some said')
    (halike : said.Alike Classification.Alike said') (hmade : s.made? family call = none) :
    AnswersAlike family family' s s' call call' where
  made made made' h := by
    rw [hmade] at h
    cases h
  said other other' h h' := by
    rw [hsaid] at h
    rw [hsaid'] at h'
    cases h
    cases h'
    exact halike

/-! ### Two whole runs -/

/-- Two new processes are in step. -/
theorem inStep_new : InStep ({} : HostSession F E) ({} : HostSession F' E') where
  exclusive := .of_entries_eq_nil rfl
  exclusive' := .of_entries_eq_nil rfl
  next_eq := rfl
  contains_eq _ := rfl
  factory_eq := rfl

/-- Two sessions that are in step, as two new processes are, and two runs on them with
alike calls and alike answers. The calls may differ in the bytes of the buffers, in the
locale and the names of accepted settings, and in the factories; the answers in indices,
names, scores, the number of categories in a group and the messages of statuses, and the
engines in everything else. The two runs write the same events, one by one. -/
theorem events_of_runsAlike {s : HostSession F E} {s' : HostSession F' E'} (hs : InStep s s')
    {calls : List (HostCall F)} {calls' : List (HostCall F')}
    (hruns : RunsAlike family family' s s' calls calls') :
    s.events family calls = s'.events family' calls' := by
  -- By induction on the two runs: being in step carries over from call to call.
  induction hruns with
  | nil s s' => rfl
  | cons hcall hanswers hrest ih =>
      obtain ⟨hevents, hs'⟩ := step_alike family family' hs hcall hanswers
      rw [events_cons, events_cons, hevents, ih hs']

/-- Two hosts with other settings and other pixels. One gets an answer, the other an answer
with more categories and with a label that it cannot be shown; then both get a status, each
with words of its own, and a panic. What they are told differs, what is logged does not. -/
theorem events_of_runsAlike_script :
    let one : Single := Binary.ofInt 1
    let script : Script := ⟨.ok (),
      [.ok ⟨[⟨0, []⟩]⟩, .error ⟨.notFound, "no cat"⟩, .panic (.text "broken")]⟩
    let script' : Script := ⟨.ok (),
      [.ok ⟨[⟨7, [⟨281, one, "dog", "a\x00b"⟩, ⟨3, one, "fox", ""⟩]⟩]⟩,
        .error ⟨.notFound, "no dog"⟩, .panic (.text "broken")]⟩
    let settings : HostSettings := { locale := some [100, 101], deny := ⟨some [some [99]], 1⟩ }
    let ask (bytes : List UInt8) : HostCall SampleFactory :=
      .classify 1 ⟨some ⟨bytes.toArray⟩, 3⟩ ⟨1, 1⟩
    let calls : List (HostCall SampleFactory) :=
      [.install (.script script), .init {} (.structure none), ask [1, 2, 3], ask [1, 2, 3],
        ask [1, 2, 3], .deinit 1]
    let calls' : List (HostCall SampleFactory) :=
      [.install (.script script'), .init {} (.structure (some settings)), ask [4, 5, 6],
        ask [7, 8, 9], ask [0, 0, 0], .deinit 1]
    let s : HostSession SampleFactory SampleEngine := {}
    (InStep s s ∧ RunsAlike sampleFamily sampleFamily s s calls calls')
      ∧ s.events sampleFamily calls = s.events sampleFamily calls'
      ∧ s.replies sampleFamily calls ≠ s.replies sampleFamily calls' := by
  intro one script script' settings ask calls calls' s
  have hpixels (bytes bytes' : List UInt8) (h : bytes.length = bytes'.length) :
      HostPixels.Alike ⟨some ⟨bytes.toArray⟩, 3⟩ ⟨some ⟨bytes'.toArray⟩, 3⟩ :=
    ⟨congrArg some h, rfl⟩
  have hruns : RunsAlike sampleFamily sampleFamily s s calls calls' := by
    -- Call by call: the factories differ, then the settings, then the pixels and the answers.
    refine .cons (.install _ _) (.of_none _ _ rfl rfl) ?_
    refine .cons (.init {} (.accepted rfl rfl rfl rfl)) (.of_made _ _ rfl rfl (.ok trivial) rfl) ?_
    refine .cons (.classify 1 ⟨1, 1⟩ (hpixels _ _ rfl)) (.of_said _ _ rfl rfl (.ok rfl) rfl) ?_
    refine .cons (.classify 1 ⟨1, 1⟩ (hpixels _ _ rfl)) (.of_said _ _ rfl rfl (.error rfl) rfl) ?_
    refine .cons (.classify 1 ⟨1, 1⟩ (hpixels _ _ rfl)) (.of_said _ _ rfl rfl (.panic rfl) rfl) ?_
    exact .cons (.deinit 1) (.of_none _ _ rfl rfl) (.nil _ _)
  refine ⟨⟨inStep_new, hruns⟩, events_of_runsAlike sampleFamily sampleFamily inStep_new hruns, ?_⟩
  intro hsame
  -- The third reply is a success on one side only.
  have hthird := congrArg (fun replies => replies[2]?.map fun reply =>
    reply matches .classify ⟨⟨true, _, _⟩, _⟩) hsame
  revert hthird
  decide

end HostSession

end ClassifierBridge
