import ClassifierBridge.Engines.Sample
import ClassifierBridge.Proofs.Host.Reply
import ClassifierBridge.Proofs.Host.Run
import Mathlib.Data.Set.Card

/-!
# `ClassifierBridge.Proofs.Host.Handles`: handles over a whole run

A handle that was released never comes back, and a handle is live from the reply
that issued it until the call that releases it. Both are statements about the
history of a session, the calls with their replies; `issued` and `LiveIn` read
them off there, with no look at the registry. `Tracks` ties a history to the
registry that it leaves:

* `step_of_issued`, `step_of_not_issued`: what one call does to the counter and
  to the set of live handles.
* `tracks_step`, `tracks_after`: the registry tracks the history after each call
  and after every run.
* `handles_of_run`: the handles count up from one, and what the registry
  holds, counts and refuses is what the history says.
-/

set_option autoImplicit false

namespace ClassifierBridge

/-! ### Histories -/

/-- Calls with the replies that they got. -/
abbrev History (F : Type) := List (HostCall F × HostReply)

namespace History

variable {F : Type}

/-- The handles that were handed out, in order. -/
def issued (t : History F) : List UInt64 := t.filterMap fun entry => entry.2.issued?

/-- The handle was handed out at some time and has not been released since. -/
def LiveIn (t : History F) (handle : UInt64) : Prop :=
  ∃ before entry later, t = before ++ entry :: later ∧ entry.2.issued? = some handle
    ∧ ∀ other ∈ later, other.1 ≠ .deinit handle

/-- One more call hands out one handle or none. -/
theorem issued_concat (t : History F) (entry : HostCall F × HostReply) :
    issued (t ++ [entry]) = issued t ++ entry.2.issued?.toList := by
  unfold issued
  rw [List.filterMap_append]
  cases h : entry.2.issued? with
  | none => rw [List.filterMap_cons, h]; rfl
  | some handle => rw [List.filterMap_cons, h]; rfl

/-- The handles of one history and then of another. -/
theorem issued_append (t u : History F) : issued (t ++ u) = issued t ++ issued u :=
  List.filterMap_append

/-- No more handles are handed out than calls are made. -/
theorem length_issued_le (t : History F) : t.issued.length ≤ t.length :=
  List.length_filterMap_le ..

/-- Before any call no handle is live. -/
theorem not_liveIn_nil (handle : UInt64) : ¬ LiveIn ([] : History F) handle := by
  rintro ⟨before, entry, later, h, -⟩
  cases before <;> cases h

/-- A handle is live after one more call if this call issued it, or if it was live
before and this call did not release it. -/
theorem liveIn_concat (t : History F) (entry : HostCall F × HostReply) (handle : UInt64) :
    LiveIn (t ++ [entry]) handle
      ↔ entry.2.issued? = some handle ∨ LiveIn t handle ∧ entry.1 ≠ .deinit handle := by
  constructor
  · rintro ⟨before, source, later, hsplit, hissued, hlater⟩
    -- The last call is the one that issued the handle, or it came later.
    rcases List.eq_nil_or_concat later with rfl | ⟨later', last, rfl⟩
    · obtain ⟨-, hlast⟩ := List.append_inj' hsplit rfl
      cases hlast
      exact .inl hissued
    · rw [List.concat_eq_append, ← List.cons_append, ← List.append_assoc] at hsplit
      obtain ⟨hinit, hlast⟩ := List.append_inj' hsplit rfl
      cases hlast
      refine .inr ⟨⟨before, source, later', hinit, hissued, fun other hother => ?_⟩, ?_⟩
      · exact hlater other (by rw [List.concat_eq_append]; exact List.mem_append_left _ hother)
      · exact hlater entry (by rw [List.concat_eq_append]; exact List.mem_append_right _ (by simp))
  · rintro (hissued | ⟨⟨before, source, later, rfl, hissued, hlater⟩, hkept⟩)
    · exact ⟨t, entry, [], rfl, hissued, by simp⟩
    · refine ⟨before, source, later ++ [entry], by simp, hissued, fun other hother => ?_⟩
      rcases List.mem_append.mp hother with h | h
      · exact hlater other h
      · rw [List.mem_singleton.mp h]
        exact hkept

end History

namespace HostSession

variable {F E : Type} (family : EngineFamily F E)

/-- The history of a session over some calls. -/
def history (s : HostSession F E) (calls : List (HostCall F)) : History F :=
  calls.zip (s.replies family calls)

/-- Before any call there is no history. -/
theorem history_nil (s : HostSession F E) : s.history family [] = [] := rfl

/-- The history goes on from the session that the calls before have left. -/
theorem history_append (s : HostSession F E) (calls more : List (HostCall F)) :
    s.history family (calls ++ more)
      = s.history family calls ++ (s.after family calls).history family more := by
  unfold history
  rw [replies_append, List.zip_append (length_replies family s calls).symm]

/-- One more call, with its reply, stands at the end of the history. -/
theorem history_concat (s : HostSession F E) (calls : List (HostCall F)) (call : HostCall F) :
    s.history family (calls ++ [call])
      = s.history family calls ++ [(call, ((s.after family calls).step family call).1)] :=
  history_append family s calls [call]

/-- Every call has its reply. -/
theorem length_history (s : HostSession F E) (calls : List (HostCall F)) :
    (s.history family calls).length = calls.length := by
  unfold history
  rw [List.length_zip, length_replies, Nat.min_self]

/-! ### One call -/

/-- A call that issues a handle issues the next one and leaves the others as they
are. -/
theorem step_of_issued {s : HostSession F E} {call : HostCall F} {handle : UInt64}
    (h : (s.step family call).1.issued? = some handle) :
    handle = s.registry.next
      ∧ (s.step family call).2.1.registry.next = s.registry.next + 1
      ∧ (∀ other, (s.step family call).2.1.registry.contains other = true
          ↔ other = handle ∨ s.registry.contains other = true)
      ∧ ∀ other, call ≠ .deinit other := by
  -- Only an init hands out a handle, and only one that inserted its instance.
  cases call with
  | init model source =>
      change (HostReply.init (InitReply.ofResult (s.init family model source).1)).issued?
        = some handle at h
      rw [issued?_init] at h
      show handle = _ ∧ (s.init family model source).2.1.registry.next = _
        ∧ (∀ other, (s.init family model source).2.1.registry.contains other = true ↔ _) ∧ _
      rcases init_cases family s model source with
        ⟨_, hresult, -⟩ | ⟨_, _, engine, -, -, -, hresult, hreg⟩
      · rw [hresult] at h
        cases h
      · rw [hresult] at h
        cases h
        rw [hreg]
        refine ⟨rfl, rfl, fun other => ?_, fun other hcall => by cases hcall⟩
        unfold Registry.contains
        rw [Registry.ref?_insert]
        split <;> simp_all
  | install factory => cases h
  | classify handle' pixels size => cases h
  | deinit handle' => cases h
  | liveHandles => cases h
  | initLogging filter => cases h

/-- A call that issues nothing uses up no handle, and no handle is lost but to a
release. -/
theorem step_of_not_issued {s : HostSession F E} {call : HostCall F}
    (h : (s.step family call).1.issued? = none) :
    (s.step family call).2.1.registry.next = s.registry.next
      ∧ ∀ other, (s.step family call).2.1.registry.contains other = true
          ↔ s.registry.contains other = true ∧ call ≠ .deinit other := by
  -- A call that leaves counter and entries alone.
  have hsame {r : Registry E} (hnext : r.next = s.registry.next)
      (hentries : r.entries = s.registry.entries) (hcall : ∀ other, call ≠ .deinit other) :
      r.next = s.registry.next ∧ ∀ other, r.contains other = true
        ↔ s.registry.contains other = true ∧ call ≠ .deinit other := by
    refine ⟨hnext, fun other => ?_⟩
    unfold Registry.contains Registry.ref?
    rw [hentries]
    exact ⟨fun hlive => ⟨hlive, hcall other⟩, And.left⟩
  -- Of these calls only a deinit touches the entries.
  cases call with
  | install factory => exact hsame rfl rfl fun other => nofun
  | init model source =>
      change (HostReply.init (InitReply.ofResult (s.init family model source).1)).issued?
        = none at h
      rw [issued?_init] at h
      rcases init_cases family s model source with
        ⟨_, -, hreg⟩ | ⟨_, _, _, -, -, -, hresult, -⟩
      · exact hsame (congrArg Registry.next hreg) (congrArg Registry.entries hreg)
          fun other => nofun
      · rw [hresult] at h
        cases h
  | classify handle pixels size =>
      rcases classify_cases family s handle pixels size with
        ⟨_, -, -, hstate⟩ | ⟨_, -, -, -, hstate⟩ | ⟨_, _, _, -, -, -, hstate⟩ <;>
      exact hsame (congrArg (·.registry.next) hstate) (congrArg (·.registry.entries) hstate)
        fun other => nofun
  | deinit handle =>
      show (s.registry.release handle).2.1.next = _
        ∧ ∀ other, (s.registry.release handle).2.1.contains other = true ↔ _
      constructor
      · unfold Registry.release
        split <;> rfl
      · intro other
        unfold Registry.contains
        rw [Registry.ref?_release]
        by_cases hother : other = handle
        · simp [hother]
        · simp [hother, Ne.symm hother]
  | liveHandles => exact hsame rfl rfl fun other => nofun
  | initLogging filter =>
      have hreg : (s.initLogging filter).2.registry = s.registry := by
        unfold initLogging
        split <;> rfl
      exact hsame (congrArg Registry.next hreg) (congrArg Registry.entries hreg)
        fun other => nofun

/-! ### Whole runs -/

/-- The registry is what the history says: the handles counted up from one, the
next one is due, and the live handles are those that the history leaves live. -/
structure Tracks (t : History F) (r : Registry E) : Prop where
  exclusive : r.Exclusive
  issued_eq : t.issued.map UInt64.toNat = List.range' 1 t.issued.length
  next_eq : r.next.toNat = t.issued.length + 1
  contains_iff : ∀ handle, r.contains handle = true ↔ t.LiveIn handle

/-- One call keeps the registry on the track of its history while there are
handles left. -/
theorem tracks_step {t : History F} {s : HostSession F E} (h : Tracks t s.registry)
    (call : HostCall F)
    (hfew : (History.issued (t ++ [(call, (s.step family call).1)])).length < 2 ^ 64 - 1) :
    Tracks (t ++ [(call, (s.step family call).1)]) (s.step family call).2.1.registry := by
  rw [History.issued_concat] at hfew
  -- What the call issued decides what has to be shown of counter and live handles.
  cases hnew : (s.step family call).1.issued? with
  | none =>
      obtain ⟨hnext, hcontains⟩ := step_of_not_issued family hnew
      have hissued : History.issued (t ++ [(call, (s.step family call).1)]) = t.issued := by
        rw [History.issued_concat, hnew, Option.toList_none, List.append_nil]
      refine ⟨exclusive_step family h.exclusive call, ?_, ?_, fun handle => ?_⟩
      · rw [hissued]
        exact h.issued_eq
      · rw [hissued, hnext]
        exact h.next_eq
      · rw [hcontains, History.liveIn_concat, hnew, h.contains_iff]
        simp
  | some handle =>
      obtain ⟨rfl, hnext, hcontains, hcall⟩ := step_of_issued family hnew
      have hissued : History.issued (t ++ [(call, (s.step family call).1)])
          = t.issued ++ [s.registry.next] := by
        rw [History.issued_concat, hnew, Option.toList_some]
      rw [hnew, Option.toList_some, List.length_append, List.length_singleton] at hfew
      refine ⟨exclusive_step family h.exclusive call, ?_, ?_, fun handle => ?_⟩
      · rw [hissued, List.map_append, h.issued_eq, List.map_singleton, h.next_eq,
          List.length_append, List.length_singleton, List.range'_concat, Nat.one_mul,
          Nat.add_comm 1]
      · -- The counter does not wrap around while there are handles left.
        rw [hissued, hnext, List.length_append, List.length_singleton, UInt64.toNat_add, h.next_eq]
        exact Nat.mod_eq_of_lt (by simp only [UInt64.toNat_one]; omega)
      · rw [hcontains, History.liveIn_concat, hnew, h.contains_iff, Option.some.injEq,
          and_iff_left (hcall handle), eq_comm]

/-- Every run keeps the registry on the track of its history. -/
theorem tracks_after {s : HostSession F E} (hnext : s.registry.next = 1)
    (hentries : s.registry.entries = []) (calls : List (HostCall F))
    (hfew : (s.history family calls).issued.length < 2 ^ 64 - 1) :
    Tracks (s.history family calls) (s.after family calls).registry := by
  -- From the front to the end, as each call is judged by the history before it.
  induction calls using List.reverseRecOn with
  | nil =>
      refine ⟨.of_entries_eq_nil hentries, rfl, ?_, fun handle => ?_⟩
      · show s.registry.next.toNat = 1
        rw [hnext, UInt64.toNat_one]
      · rw [after_nil, history_nil, Registry.contains_iff_mem_handles, Registry.handles, hentries]
        simp [History.not_liveIn_nil]
  | append_singleton calls call ih =>
      rw [history_concat] at hfew ⊢
      rw [after_append]
      refine tracks_step family (ih ?_) call hfew
      rw [History.issued_append, List.length_append] at hfew
      omega

/-- The number of entries is the number of handles that the history leaves live. -/
theorem Tracks.size_eq {t : History F} {r : Registry E} (h : Tracks t r) :
    r.size = {handle | t.LiveIn handle}.ncard := by
  -- Live handles are the keys of the registry, and no key comes twice.
  have hset : {handle | t.LiveIn handle} = (r.handles.toFinset : Set UInt64) := by
    ext handle
    rw [Set.mem_ofPred_eq, ← h.contains_iff, Registry.contains_iff_mem_handles,
      Finset.mem_coe, List.mem_toFinset]
  rw [hset, Set.ncard_coe_finset, List.toFinset_card_of_nodup h.exclusive.handles_nodup,
    Registry.handles, List.length_map]
  rfl

/-- Handles that are counted up are all different. -/
theorem Tracks.issued_nodup {t : History F} {r : Registry E} (h : Tracks t r) :
    t.issued.Nodup := by
  refine List.Nodup.of_map UInt64.toNat ?_
  rw [h.issued_eq]
  exact List.nodup_range'

/-- A classify whose buffer can be read is refused for its handle exactly when the
handle is not live. -/
theorem classify_eq_invalidHandle_iff {s : HostSession F E} (hs : s.registry.Exclusive)
    {handle : UInt64} {pixels : HostPixels} {data : ByteArray} (size : Dimension)
    (hread : pixels.read = .ok data) :
    (s.classify family handle pixels size).1 = .error (.invalidHandle handle)
      ↔ s.registry.contains handle = false := by
  rw [← hs.isSome_instance?]
  unfold Registry.instance?
  rcases classify_cases family s handle pixels size with
    ⟨_, h, -⟩ | ⟨_, -, hfind, hresult, -⟩ | ⟨_, _, engine, -, hfind, hresult, -⟩
  · rw [hread] at h
    cases h
  · rw [hfind, hresult]
    simp
  · -- What an engine says, or breaks off with, is never an unknown handle.
    rw [hfind, hresult]
    unfold Classifier.classify
    rcases family.classify engine _ with ⟨_ | _ | _, _⟩ <;> simp [settle]

/-- Over every run from a registry that is new, as long as the handles last: the
`k`-th handle that is handed out is `k`, so none is zero and none comes twice, and
a failed or broken-off init uses up none. After each of the calls, the keys of the
registry are the handles handed out so far and not released since, their number is
what the host is told, and a classify whose buffer can be read is refused for its
handle, inside and in what the host sees, exactly when the handle is not one of
them. -/
theorem handles_of_run {s : HostSession F E} (hnext : s.registry.next = 1)
    (hentries : s.registry.entries = []) (calls : List (HostCall F))
    (hfew : (s.history family calls).issued.length < 2 ^ 64 - 1) :
    (s.history family calls).issued.map UInt64.toNat
        = List.range' 1 (s.history family calls).issued.length
      ∧ 0 ∉ (s.history family calls).issued
      ∧ (s.history family calls).issued.Nodup
      ∧ ∀ before later, calls = before ++ later →
        let t := s.history family before
        let now := s.after family before
        now.registry.next.toNat = t.issued.length + 1
        ∧ (∀ handle, handle ∈ now.registry.handles ↔ t.LiveIn handle)
        ∧ (now.step family .liveHandles).1 = .count {handle | t.LiveIn handle}.ncard
        ∧ ∀ handle pixels data size, pixels.read = .ok data →
          ((now.classify family handle pixels size).1 = .error (.invalidHandle handle)
              ↔ ¬ t.LiveIn handle)
          ∧ ((now.step family (.classify handle pixels size)).1
                = .classify (ClassifyReply.ofFailure (.invalidHandle handle))
              ↔ ¬ t.LiveIn handle) := by
  have htracks := tracks_after family hnext hentries calls hfew
  refine ⟨htracks.issued_eq, fun hzero => ?_, htracks.issued_nodup, ?_⟩
  · have hmem := List.mem_map_of_mem hzero (f := UInt64.toNat)
    rw [htracks.issued_eq, List.mem_range'_1] at hmem
    exact absurd hmem.1 (by decide)
  · intro before later hsplit t now
    subst hsplit
    -- A part of the run hands out no more handles than the whole.
    have htracks : Tracks t now.registry := by
      refine tracks_after family hnext hentries before ?_
      rw [history_append, History.issued_append, List.length_append] at hfew
      omega
    refine ⟨htracks.next_eq, fun handle => ?_, ?_, fun handle pixels data size hread => ?_⟩
    · rw [← Registry.contains_iff_mem_handles, htracks.contains_iff]
    · show HostReply.count now.registry.size = _
      rw [htracks.size_eq]
    · have hinside : (now.classify family handle pixels size).1 = .error (.invalidHandle handle)
          ↔ ¬ t.LiveIn handle := by
        rw [classify_eq_invalidHandle_iff family htracks.exclusive size hread,
          ← htracks.contains_iff, Bool.not_eq_true]
      refine ⟨hinside, ?_⟩
      rw [← hinside, ← ClassifyReply.ofResult_eq_invalidHandle_iff, step_classify,
        HostReply.classify.injEq]

/-- Two inits, a release between them, one init that fails: handles one and two. -/
theorem handles_of_run_reissue :
    let calls : List (HostCall SampleFactory) :=
      [.install .brightness, .init {} (.structure none), .deinit 1, .deinit 7,
        .init { fd := -1 } (.structure none), .init {} (.structure none)]
    let s : HostSession SampleFactory SampleEngine := {}
    (s.registry.next = 1 ∧ s.registry.entries = []
      ∧ (s.history sampleFamily calls).issued.length < 2 ^ 64 - 1)
    ∧ (s.history sampleFamily calls).issued.map UInt64.toNat = [1, 2] := by
  intro calls s
  have hfew : (s.history sampleFamily calls).issued.length < 2 ^ 64 - 1 := by
    refine Nat.lt_of_le_of_lt (History.length_issued_le _) ?_
    rw [length_history]
    decide
  refine ⟨⟨rfl, rfl, hfew⟩, ?_⟩
  rw [(handles_of_run sampleFamily rfl rfl calls hfew).1]
  have : (s.history sampleFamily calls).issued.length = 2 := by decide
  rw [this]
  rfl

end HostSession

end ClassifierBridge
