import ClassifierBridge.Host.Session
import ClassifierBridge.Proofs.Registry.Exclusive

/-!
# `ClassifierBridge.Proofs.Host.Run`: one call, and calls one after the other

What a single call of the host can do to the registry, said once for every later
proof, and the laws of runs.

* `HostPixels.read_cases`, `HostPixels.carries_of_read`: which buffers are refused,
  and what is read of the others.
* `init_cases`, `classify_cases`: the ways in which the two calls that reach an
  engine can end, each with what it leaves behind. The other calls are plain.
* `factory_step`: only an init asks the installed factory for anything.
* `exclusive_step`, `exclusive_after`: a session never shares an instance
  between two handles.
* `step_of_frameFor?`: a call that reaches an instance asks it once and changes no
  other.
* `instance?_step_of_other`: a call that neither issues a handle, nor releases
  it, nor reaches its instance leaves the instance as it is.
* `after_append`, `replies_append`: a run in two parts.
-/

set_option autoImplicit false

namespace ClassifierBridge

/-- The handle that a reply hands out. -/
def HostReply.issued? : HostReply → Option UInt64
  | .init reply => if reply.verdict.success then some reply.handle else none
  | _ => none

/-- The configuration that a call has the installed factory asked about. -/
def HostCall.request? {F : Type} : HostCall F → Option EngineConfig
  | .init model source => source.read.toOption.map fun settings => settings.engineConfig model
  | _ => none

namespace EngineFamily

variable {F E : Type} (family : EngineFamily F E)

/-- What becomes of a factory that is asked about some configurations, one after the other. -/
def afterRequests (factory : F) (configs : List EngineConfig) : F :=
  configs.foldl (fun factory config => (family.create factory config).2) factory

/-- A factory that is asked nothing stays as it is. -/
@[simp] theorem afterRequests_nil (factory : F) : family.afterRequests factory [] = factory := rfl

/-- The second request is made of what the first one left. -/
@[simp] theorem afterRequests_cons (factory : F) (config : EngineConfig)
    (configs : List EngineConfig) :
    family.afterRequests factory (config :: configs)
      = family.afterRequests (family.create factory config).2 configs := rfl

/-- A factory without a state is what it was before. -/
theorem afterRequests_of_stateless
    (hstateless : ∀ factory config, (family.create factory config).2 = factory) (factory : F)
    (configs : List EngineConfig) : family.afterRequests factory configs = factory := by
  -- Each request leaves the factory, so the next one finds it as it was.
  induction configs with
  | nil => rfl
  | cons config configs ih => rw [afterRequests_cons, hstateless, ih]

end EngineFamily

/-! ### The buffer -/

namespace HostPixels

/-- A null pointer, and a length that is not zero. -/
def Missing (p : HostPixels) : Prop := p.memory = none ∧ 0 < p.length

/-- The memory behind the pointer, if it is not null, has as many bytes as the length says. -/
def Holds (p : HostPixels) : Prop := ∀ memory, p.memory = some memory → p.length ≤ memory.size

/-- The bytes are those of the buffer, no more and no less. -/
structure Carries (p : HostPixels) (data : ByteArray) : Prop where
  empty : p.memory = none ∨ p.length = 0 → data = .empty
  size_eq : data.size = p.length
  bytes : ∀ memory, p.memory = some memory →
    ∀ i (h : i < data.size) (h' : i < memory.size), data[i] = memory[i]

/-- A buffer is refused because it is missing, or else because it is too long. -/
theorem read_cases (p : HostPixels) :
    (p.Missing ∧ p.read = .error .nullPixels)
      ∨ (¬ p.Missing ∧ lengthLimit < p.length ∧ p.read = .error .tooManyPixels)
      ∨ (¬ p.Missing ∧ p.length ≤ lengthLimit ∧ ∃ data, p.read = .ok data) := by
  obtain ⟨memory, length⟩ := p
  simp only [Missing, read]
  cases memory with
  | none =>
      by_cases hpos : 0 < length
      · exact .inl ⟨⟨rfl, hpos⟩, if_pos hpos⟩
      · refine .inr (.inr ⟨fun h => hpos h.2, ?_, _, if_neg hpos⟩)
        rw [Nat.eq_zero_of_not_pos hpos]
        exact Nat.zero_le _
  | some bytes =>
      by_cases hlong : lengthLimit < length
      · exact .inr (.inl ⟨nofun, hlong, if_pos hlong⟩)
      · exact .inr (.inr ⟨nofun, Nat.le_of_not_lt hlong, _, if_neg hlong⟩)

/-- What is read of a buffer are its bytes, if it has as many as it declares. -/
theorem carries_of_read {p : HostPixels} {data : ByteArray} (hread : p.read = .ok data)
    (hold : p.Holds) : p.Carries data := by
  obtain ⟨memory, length⟩ := p
  cases memory with
  | none =>
      simp only [read] at hread
      split at hread
      · cases hread
      · next hpos =>
          cases hread
          exact ⟨fun _ => rfl, (Nat.eq_zero_of_not_pos hpos).symm, nofun⟩
  | some memory =>
      have hlength : length ≤ memory.size := hold memory rfl
      simp only [read] at hread
      split at hread
      · cases hread
      · cases hread
        have hsize : (memory.extract 0 length).size = length := by
          rw [ByteArray.size_extract, Nat.min_eq_left hlength, Nat.sub_zero]
        refine ⟨?_, hsize, ?_⟩
        · rintro (hnull | hzero)
          · cases hnull
          · exact ByteArray.size_eq_zero_iff.mp (hsize.trans hzero)
        · rintro bytes ⟨⟩ i h h'
          simp only [ByteArray.getElem_extract, Nat.zero_add]

end HostPixels

namespace HostSession

variable {F E : Type} (family : EngineFamily F E)

/-! ### Runs -/

/-- The session after some calls. -/
def after (s : HostSession F E) (calls : List (HostCall F)) : HostSession F E :=
  (s.run family calls).2.1

/-- The replies to some calls. -/
def replies (s : HostSession F E) (calls : List (HostCall F)) : List HostReply :=
  (s.run family calls).1

/-- No calls change nothing. -/
theorem after_nil (s : HostSession F E) : s.after family [] = s := rfl

/-- The session goes on from what the first call left. -/
theorem after_cons (s : HostSession F E) (call : HostCall F) (calls : List (HostCall F)) :
    s.after family (call :: calls) = (s.step family call).2.1.after family calls := rfl

/-- The reply to the first call comes first. -/
theorem replies_cons (s : HostSession F E) (call : HostCall F) (calls : List (HostCall F)) :
    s.replies family (call :: calls)
      = (s.step family call).1 :: (s.step family call).2.1.replies family calls := rfl

/-- Calls behind others start from what the others left. -/
theorem after_append (s : HostSession F E) (calls more : List (HostCall F)) :
    s.after family (calls ++ more) = (s.after family calls).after family more := by
  induction calls generalizing s with
  | nil => rfl
  | cons call calls ih => rw [List.cons_append, after_cons, after_cons, ih]

/-- Calls behind others get the replies of the session that the others left. -/
theorem replies_append (s : HostSession F E) (calls more : List (HostCall F)) :
    s.replies family (calls ++ more)
      = s.replies family calls ++ (s.after family calls).replies family more := by
  induction calls generalizing s with
  | nil => rfl
  | cons call calls ih =>
      rw [List.cons_append, replies_cons, replies_cons, ih, after_cons, List.cons_append]

/-- Every call gets one reply. -/
theorem length_replies (s : HostSession F E) (calls : List (HostCall F)) :
    (s.replies family calls).length = calls.length := by
  induction calls generalizing s with
  | nil => rfl
  | cons call calls ih => rw [replies_cons, List.length_cons, List.length_cons, ih]

/-! ### The ways a call can end -/

/-- An init fails and leaves the registry alone, or it puts a new instance of the
installed engine under the next handle. -/
theorem init_cases (s : HostSession F E) (model : ModelRegion) (source : SettingsSource) :
    (∃ failure, (s.init family model source).1 = .error failure
        ∧ (s.init family model source).2.1.registry = s.registry)
      ∨ ∃ settings factory engine, source.read = .ok settings ∧ s.factory = some factory
        ∧ (Classifier.create family factory settings model).1 = .ok engine
        ∧ (s.init family model source).1 = .ok s.registry.next
        ∧ (s.init family model source).2.1.registry = (s.registry.insert engine).2 := by
  unfold init
  cases hsource : source.read with
  | error failure => exact .inl ⟨failure, rfl, rfl⟩
  | ok settings =>
      cases hfactory : s.factory with
      | none => exact .inl ⟨.engineUnavailable, rfl, rfl⟩
      | some factory =>
          simp only [Registry.create]
          cases hcreate : Classifier.create family factory settings model with
          | mk outcome rest =>
              cases outcome with
              | ok engine =>
                  exact .inr ⟨settings, factory, engine, rfl, rfl, by rw [hcreate], rfl, rfl⟩
              | error failure => exact .inl ⟨failure, rfl, rfl⟩
              | panic p => exact .inl ⟨.initialization (panicStatus p), rfl, rfl⟩

/-- A classify is refused for its buffer, or for its handle, or it asks the
instance behind the handle and keeps what became of it. -/
theorem classify_cases (s : HostSession F E) (handle : UInt64) (pixels : HostPixels)
    (size : Dimension) :
    (∃ fault, pixels.read = .error fault
        ∧ (s.classify family handle pixels size).1 = .error (.invalidArgument fault)
        ∧ (s.classify family handle pixels size).2.1 = s)
      ∨ (∃ data, pixels.read = .ok data ∧ s.registry.find handle = none
        ∧ (s.classify family handle pixels size).1 = .error (.invalidHandle handle)
        ∧ (s.classify family handle pixels size).2.1 = s)
      ∨ ∃ data ref engine, pixels.read = .ok data
        ∧ s.registry.find handle = some (ref, engine)
        ∧ (s.classify family handle pixels size).1
          = (settle .classification
              (Classifier.classify family engine { data, dimension := size }).1).1
        ∧ (s.classify family handle pixels size).2.1
          = { s with registry := { s.registry with
                pool := s.registry.pool.update ref
                  (Classifier.classify family engine { data, dimension := size }).2.1 } } := by
  unfold classify
  cases hread : pixels.read with
  | error fault => exact .inl ⟨fault, rfl, rfl, rfl⟩
  | ok data =>
      simp only [Registry.classify]
      cases hfind : s.registry.find handle with
      | none => exact .inr (.inl ⟨data, rfl, rfl, rfl, rfl⟩)
      | some found => exact .inr (.inr ⟨data, found.1, found.2, rfl, rfl, rfl, rfl⟩)

/-- A call that installs no factory leaves the installed one as its request does. -/
theorem factory_step (s : HostSession F E) {call : HostCall F}
    (h : ∀ factory, call ≠ .install factory) :
    (s.step family call).2.1.factory
      = s.factory.map fun factory => family.afterRequests factory call.request?.toList := by
  cases call with
  | install factory => exact absurd rfl (h factory)
  | init model source =>
      show (s.init family model source).2.1.factory = _
      simp only [init, HostCall.request?]
      cases source.read with
      | error failure => cases s.factory <;> rfl
      | ok settings =>
          cases hfactory : s.factory with
          | none => exact hfactory
          | some factory =>
              simp only [Registry.create, Classifier.create, Except.toOption, Option.map_some,
                Option.toList_some, EngineFamily.afterRequests_cons,
                EngineFamily.afterRequests_nil]
              rcases family.create factory (settings.engineConfig model) with ⟨_ | _ | _, _⟩ <;> rfl
  -- No classify gets to the factory, however it ends.
  | classify handle pixels size =>
      show (s.classify family handle pixels size).2.1.factory = _
      rcases classify_cases family s handle pixels size with
        ⟨_, -, -, h⟩ | ⟨_, -, -, -, h⟩ | ⟨_, _, _, -, -, -, h⟩ <;>
      · rw [h]
        exact Option.map_id'.symm
  | deinit handle => exact Option.map_id'.symm
  | liveHandles => exact Option.map_id'.symm
  | initLogging filter =>
      show (s.initLogging filter).2.factory = _
      simp only [initLogging]
      split <;> exact Option.map_id'.symm

/-- The reply to a classify shows its result. -/
theorem step_classify (s : HostSession F E) (handle : UInt64) (pixels : HostPixels)
    (size : Dimension) :
    (s.step family (.classify handle pixels size)).1
      = .classify (ClassifyReply.ofResult (s.classify family handle pixels size).1) := rfl

/-- The reply to an init hands out a handle exactly when the init went well. -/
theorem issued?_init (result : Except Failure UInt64) :
    (HostReply.init (InitReply.ofResult result)).issued? = result.toOption := by
  cases result <;> rfl

/-- The frame that a call puts before the instance behind a handle, if it reaches
this instance. -/
def frameFor? (s : HostSession F E) (handle : UInt64) : HostCall F → Option Frame
  | .classify target pixels size =>
    if target = handle ∧ s.registry.contains handle = true then
      pixels.read.toOption.map fun data => { data, dimension := size }
    else none
  | _ => none

/-- An instance is reached by a classify of its own handle, if the handle is live
and the buffer can be read. -/
theorem frameFor?_eq_some_iff {s : HostSession F E} {handle : UInt64} {call : HostCall F}
    {frame : Frame} :
    s.frameFor? handle call = some frame
      ↔ ∃ pixels size data, call = .classify handle pixels size
        ∧ s.registry.contains handle = true ∧ pixels.read = .ok data
        ∧ frame = { data, dimension := size } := by
  constructor
  · intro h
    unfold frameFor? at h
    split at h
    · next target pixels size =>
        split at h
        · next hlive =>
            obtain ⟨data, hdata, rfl⟩ := Option.map_eq_some_iff.mp h
            cases hread : pixels.read with
            | error fault =>
                rw [hread] at hdata
                cases hdata
            | ok data' =>
                rw [hread] at hdata
                cases hdata
                exact ⟨pixels, size, data, by rw [hlive.1], hlive.2, hread, rfl⟩
        · cases h
    · cases h
  · rintro ⟨pixels, size, data, rfl, hlive, hread, rfl⟩
    simp only [frameFor?, hlive, and_self, if_true, hread]
    rfl

/-! ### Separate instances -/

/-- No call makes two handles share an instance. -/
theorem exclusive_step {s : HostSession F E} (hs : s.registry.Exclusive) (call : HostCall F) :
    (s.step family call).2.1.registry.Exclusive := by
  cases call with
  | install factory => exact hs
  -- Only an init adds an entry, and it adds the instance with it.
  | init model source =>
      show (s.init family model source).2.1.registry.Exclusive
      rcases init_cases family s model source with ⟨_, -, h⟩ | ⟨_, _, engine, -, -, -, -, h⟩
      · rw [h]; exact hs
      · rw [h]; exact hs.exclusive_insert engine
  | classify handle pixels size =>
      show (s.classify family handle pixels size).2.1.registry.Exclusive
      rcases classify_cases family s handle pixels size with
        ⟨_, -, -, h⟩ | ⟨_, -, -, -, h⟩ | ⟨_, _, _, -, hfind, -, h⟩
      · rw [h]; exact hs
      · rw [h]; exact hs
      · rw [h]; exact hs.exclusive_update hfind _
  | deinit handle => exact hs.exclusive_release handle
  | liveHandles => exact hs
  | initLogging filter =>
      show (s.initLogging filter).2.registry.Exclusive
      unfold initLogging
      split <;> exact hs

/-- No run makes two handles share an instance. -/
theorem exclusive_after {s : HostSession F E} (hs : s.registry.Exclusive)
    (calls : List (HostCall F)) : (s.after family calls).registry.Exclusive := by
  induction calls generalizing s with
  | nil => exact hs
  | cons call calls ih => exact ih (exclusive_step family hs call)

/-! ### What a call does to the instance behind a handle -/

/-- A successful init: the handle is the next one and finds a new instance. -/
theorem instance?_init {s : HostSession F E} (hs : s.registry.Exclusive) {model : ModelRegion}
    {source : SettingsSource} {handle : UInt64}
    (h : (s.step family (.init model source)).1.issued? = some handle) :
    ∃ settings factory engine, source.read = .ok settings ∧ s.factory = some factory
      ∧ (Classifier.create family factory settings model).1 = .ok engine
      ∧ handle = s.registry.next
      ∧ (s.step family (.init model source)).2.1.registry = (s.registry.insert engine).2
      ∧ ∀ other, (s.step family (.init model source)).2.1.registry.instance? other
          = if other = handle then some engine else s.registry.instance? other := by
  change (HostReply.init (InitReply.ofResult (s.init family model source).1)).issued?
    = some handle at h
  rw [issued?_init] at h
  rcases init_cases family s model source with
    ⟨failure, hresult, -⟩ | ⟨settings, factory, engine, hsource, hfactory, hcreate, hresult, hreg⟩
  · rw [hresult] at h
    cases h
  · rw [hresult] at h
    cases h
    refine ⟨settings, factory, engine, hsource, hfactory, hcreate, rfl, hreg, fun other => ?_⟩
    show (s.init family model source).2.1.registry.instance? other = _
    rw [hreg, hs.instance?_insert]

/-- A call that reaches the instance behind a handle: the reply is that of the
instance, and the handle finds what became of it. -/
theorem step_of_frameFor? {s : HostSession F E} (hs : s.registry.Exclusive) {handle : UInt64}
    {call : HostCall F} {frame : Frame} (h : s.frameFor? handle call = some frame) :
    ∃ engine, s.registry.instance? handle = some engine
      ∧ (s.step family call).1 = .classify (ClassifyReply.ofResult
          (settle .classification (Classifier.classify family engine frame).1).1)
      ∧ ∀ other, (s.step family call).2.1.registry.instance? other
          = if other = handle then some (Classifier.classify family engine frame).2.1
            else s.registry.instance? other := by
  obtain ⟨pixels, size, data, rfl, hlive, hread, rfl⟩ := frameFor?_eq_some_iff.mp h
  rw [← hs.isSome_instance?] at hlive
  rcases classify_cases family s handle pixels size with
    ⟨_, herror, -⟩ | ⟨_, -, hnone, -⟩ | ⟨data', ref, engine, hread', hfind, hresult, hstate⟩
  · rw [hread] at herror
    cases herror
  · rw [Registry.instance?, hnone] at hlive
    cases hlive
  · rw [hread] at hread'
    cases hread'
    refine ⟨engine, by rw [Registry.instance?, hfind]; rfl, ?_, fun other => ?_⟩
    · rw [step_classify, hresult]
    · show (s.classify family handle pixels size).2.1.registry.instance? other = _
      rw [hstate]
      exact hs.instance?_update hfind _ other

/-- A call that has nothing to do with a handle leaves its instance as it is. -/
theorem instance?_step_of_other {s : HostSession F E} (hs : s.registry.Exclusive)
    {call : HostCall F} {handle : UInt64}
    (hissue : (s.step family call).1.issued? ≠ some handle) (hdeinit : call ≠ .deinit handle)
    (hframe : s.frameFor? handle call = none) :
    (s.step family call).2.1.registry.instance? handle = s.registry.instance? handle := by
  -- Three calls could touch an instance. Each of them is about another handle here.
  cases call with
  | install factory => rfl
  | init model source =>
      cases hnew : (s.step family (.init model source)).1.issued? with
      | some new =>
          obtain ⟨_, _, engine, -, -, -, -, -, hinst⟩ := instance?_init family hs hnew
          rw [hinst, if_neg]
          rintro rfl
          exact hissue hnew
      | none =>
          change (HostReply.init (InitReply.ofResult (s.init family model source).1)).issued?
            = none at hnew
          show (s.init family model source).2.1.registry.instance? handle = _
          rw [issued?_init] at hnew
          rcases init_cases family s model source with ⟨_, -, h⟩ | ⟨_, _, _, -, -, -, h, -⟩
          · rw [h]
          · rw [h] at hnew
            cases hnew
  | classify handle' pixels size =>
      show (s.classify family handle' pixels size).2.1.registry.instance? handle = _
      rcases classify_cases family s handle' pixels size with
        ⟨_, -, -, h⟩ | ⟨_, -, -, -, h⟩ | ⟨data, ref, engine, hread, hfind, -, h⟩
      · rw [h]
      · rw [h]
      · rw [h]
        refine (hs.instance?_update hfind _ handle).trans (if_neg ?_)
        rintro rfl
        have hlive : s.registry.contains handle = true := by
          rw [← hs.isSome_instance?, Registry.instance?, hfind]
          rfl
        have hsome := frameFor?_eq_some_iff.mpr ⟨pixels, size, data, rfl, hlive, hread, rfl⟩
        rw [hsome] at hframe
        cases hframe
  | deinit handle' =>
      refine (hs.instance?_release handle' handle).trans (if_neg ?_)
      rintro rfl
      exact hdeinit rfl
  | liveHandles => rfl
  | initLogging filter =>
      show (s.initLogging filter).2.registry.instance? handle = _
      unfold initLogging
      split <;> rfl

/-- A released handle finds nothing. -/
theorem instance?_deinit {s : HostSession F E} (hs : s.registry.Exclusive) (handle : UInt64) :
    (s.step family (.deinit handle)).2.1.registry.instance? handle = none :=
  (hs.instance?_release handle handle).trans (if_pos rfl)

end HostSession

end ClassifierBridge
