import ClassifierBridge.Engines.Sample
import ClassifierBridge.Proofs.Host.Events
import ClassifierBridge.Proofs.Host.Handles
import Mathlib.Data.List.Induction
import Mathlib.Data.List.Nodup
import Mathlib.Tactic.Tauto

/-!
# `ClassifierBridge.Proofs.Host.Record`: the log as a record of the run

Somebody who reads the log of a run knows which handles were issued and released, which of
them are live now, and how every request to an engine ended. A `LogRecord` is what is shown
of an event, so the statements below are about the texts that stand in the log.

* `record_inj`: two events that are shown alike are the same.
* `named_step`, `named_of_run`: the handles that the events of a call and of a run name.
* `LogRecord.LiveIn`: registered and not released since, read off the log alone.
* `contains_iff_liveIn`: by this reading a handle is live when the registry has it.
* `tellsAnswer_ofAnswer`, `tellsCreation_ofCreation`: the last record of a request tells how
  the request ended.
* `log_of_run`: all of it, for every run and for the next call after it.
-/

set_option autoImplicit false

namespace ClassifierBridge

/-! ### What is shown of an event -/

/-- What the log shows of an event. -/
structure LogRecord where
  level : Level
  message : String
  fields : List (String × String)
deriving DecidableEq, Repr

namespace LogRecord

/-- The field for a handle. -/
def handleField (handle : UInt64) : String × String := ("handle", Nat.repr handle.toNat)

/-- The fields for a size. -/
def sizeFields (size : Dimension) : List (String × String) :=
  [("width", Nat.repr size.width.toNat), ("height", Nat.repr size.height.toNat)]

/-- The record of a registration. -/
def registered (handle : UInt64) : LogRecord :=
  ⟨.debug, "registered image classifier", [handleField handle]⟩

/-- The record of a release. -/
def released (handle : UInt64) : LogRecord :=
  ⟨.debug, "released image classifier", [handleField handle]⟩

/-- By the log, the handle was registered at some time and has not been released since. -/
def LiveIn (log : List LogRecord) (handle : UInt64) : Prop :=
  ∃ before later, log = before ++ registered handle :: later ∧ released handle ∉ later

/-- By an empty log no handle is live. -/
theorem not_liveIn_nil (handle : UInt64) : ¬ LiveIn [] handle := by
  rintro ⟨before, later, h, -⟩
  cases before <;> cases h

/-- What is live by the log was registered. -/
theorem LiveIn.registered_mem {log : List LogRecord} {handle : UInt64} (h : LiveIn log handle) :
    registered handle ∈ log := by
  obtain ⟨before, later, rfl, -⟩ := h
  exact List.mem_append_right _ List.mem_cons_self

/-- Without a release, being live is being registered. -/
theorem liveIn_of_not_released {log : List LogRecord} {handle : UInt64}
    (hregistered : registered handle ∈ log) (hreleased : released handle ∉ log) :
    LiveIn log handle := by
  obtain ⟨before, later, rfl⟩ := List.append_of_mem hregistered
  exact ⟨before, later, rfl, fun h =>
    hreleased (List.mem_append_right _ (List.mem_cons_of_mem _ h))⟩

/-- The later part of a log decides, unless it says nothing about the handle. -/
theorem liveIn_append (log more : List LogRecord) (handle : UInt64) :
    LiveIn (log ++ more) handle
      ↔ LiveIn more handle ∨ LiveIn log handle ∧ released handle ∉ more := by
  constructor
  · rintro ⟨before, later, hsplit, hlater⟩
    -- The registration stands in the later part or in the earlier one.
    rcases List.append_eq_append_iff.mp hsplit with
      ⟨before', -, hmore⟩ | ⟨later', hlog, hmore⟩
    · exact .inl ⟨before', later, hmore, hlater⟩
    · cases later' with
      -- The record of the registration is the first of the later part.
      | nil => exact .inl ⟨[], later, hmore.symm, hlater⟩
      | cons record later' =>
          obtain ⟨rfl, rfl⟩ := List.cons.inj hmore
          rw [List.append_eq, List.mem_append, not_or] at hlater
          exact .inr ⟨⟨before, later', hlog, hlater.1⟩, hlater.2⟩
  · rintro (⟨before, later, rfl, hlater⟩ | ⟨⟨before, later, rfl, hlater⟩, hmore⟩)
    · exact ⟨log ++ before, later, (List.append_assoc ..).symm, hlater⟩
    · refine ⟨before, later ++ more, by rw [List.append_assoc, List.cons_append], ?_⟩
      rw [List.mem_append, not_or]
      exact ⟨hlater, hmore⟩

end LogRecord

/-- The log shows which code it was, as no two have one name. -/
theorem StatusCode.name_inj {code code' : StatusCode} : code.name = code'.name ↔ code = code' := by
  cases code <;> cases code' <;> decide

namespace Event

/-- What is shown of an event: its level, its message and its fields. -/
def record (e : Event) : LogRecord := ⟨e.level, e.message, e.fields⟩

/-- The event that an init with settings begins with. -/
def isCreating : Event → Bool
  | .creating .. => true
  | _ => false

/-- What is shown of an event tells which event it is. A `creating` is left out, as nothing
depends on it. -/
theorem record_inj {e : Event} (e' : Event) (h : e'.isCreating = false) :
    e.record = e'.record ↔ e = e' := by
  have hsize (size size' : Dimension) : size = size'
      ↔ size.width.toNat = size'.width.toNat ∧ size.height.toNat = size'.height.toNat := by
    obtain ⟨width, height⟩ := size
    obtain ⟨width', height'⟩ := size'
    simp only [Dimension.mk.injEq, UInt32.toNat_inj]
  cases e' with
  | creating model maxResults threshold => cases h
  -- Events of two kinds have different messages, and those of one kind show all they hold.
  | _ =>
      cases e <;>
      simp [record, level, message, fields, Event.sizeFields, Event.handleField,
        StatusCode.name_inj, UInt64.toNat_inj, hsize, and_assoc]

/-- The handle that an event registers. -/
def registered? : Event → Option UInt64
  | .registered handle => some handle
  | _ => none

/-- The handle that an event releases. -/
def released? : Event → Option UInt64
  | .released handle => some handle
  | _ => none

/-- One kind of event registers. -/
theorem registered?_eq_some_iff {e : Event} {handle : UInt64} :
    e.registered? = some handle ↔ e = .registered handle := by
  cases e <;> simp [registered?]

/-- One kind of event releases. -/
theorem released?_eq_some_iff {e : Event} {handle : UInt64} :
    e.released? = some handle ↔ e = .released handle := by
  cases e <;> simp [released?]

/-- The records with some message are those of the events that name a handle in this sense. -/
theorem filter_records {name? : Event → Option UInt64} {shown : UInt64 → LogRecord}
    {message : String}
    (hname : ∀ e, if e.message = message then ∃ handle, name? e = some handle
      ∧ e.record = shown handle else name? e = none) (events : List Event) :
    (events.map record).filter (fun r => r.message = message)
      = (events.filterMap name?).map shown := by
  -- Whether the first event is about the message, and whether its record is kept.
  let kept (r : LogRecord) : Bool := r.message = message
  -- The induction is on the events, and each is kept on both sides or on neither.
  induction events with
  | nil => rfl
  | cons e events ih =>
      have he := hname e
      rw [List.map_cons]
      split at he
      · next hmessage =>
          obtain ⟨handle, hsome, hrecord⟩ := he
          have hkept : kept e.record = true := decide_eq_true hmessage
          rw [List.filter_cons_of_pos hkept, ih, List.filterMap_cons_some hsome, List.map_cons,
            hrecord]
      · next hmessage =>
          have hkept : ¬ kept e.record = true := by
            rw [decide_eq_true_eq]
            exact hmessage
          rw [List.filter_cons_of_neg hkept, ih, List.filterMap_cons_none he]

/-- The records about registrations are those of the events that register. -/
theorem filter_registered (events : List Event) :
    (events.map record).filter (fun r => r.message = "registered image classifier")
      = (events.filterMap registered?).map LogRecord.registered := by
  refine filter_records (fun e => ?_) events
  cases e <;> simp [message, registered?]
  rfl

/-- The records about releases are those of the events that release. -/
theorem filter_released (events : List Event) :
    (events.map record).filter (fun r => r.message = "released image classifier")
      = (events.filterMap released?).map LogRecord.released := by
  refine filter_records (fun e => ?_) events
  cases e <;> simp [message, released?]
  rfl

/-- The log shows the registration of a handle exactly if an event registers it. -/
theorem registered_mem_iff {events : List Event} {handle : UInt64} :
    LogRecord.registered handle ∈ events.map record ↔ handle ∈ events.filterMap registered? := by
  simp only [List.mem_map, List.mem_filterMap, registered?_eq_some_iff]
  exact exists_congr fun e => and_congr_right fun _ =>
    record_inj (.registered handle) rfl

/-- The log shows the release of a handle exactly if an event releases it. -/
theorem released_mem_iff {events : List Event} {handle : UInt64} :
    LogRecord.released handle ∈ events.map record ↔ handle ∈ events.filterMap released? := by
  simp only [List.mem_map, List.mem_filterMap, released?_eq_some_iff]
  exact exists_congr fun e => and_congr_right fun _ =>
    record_inj (.released handle) rfl

end Event

/-! ### How a request ended, by its last record -/

/-- The record tells how a classify ended, once its buffer was read: whether the handle was
live, and what the instance behind it said. -/
structure TellsAnswer (e : LogRecord) (handle : UInt64) (size : Dimension) (live : Bool)
    (said : Option (Outcome EngineStatus Classification)) : Prop where
  unknown : e = ⟨.warn, "use of unknown classifier handle", [LogRecord.handleField handle]⟩
    ↔ live = false
  classified : ∀ heads, e = ⟨.debug, "classified frame",
      LogRecord.sizeFields size ++ [("heads", Nat.repr heads)]⟩
    ↔ ∃ answer, said = some (.ok answer) ∧ answer.groups.length = heads
  failed : ∀ code, e = ⟨.warn, "classification failed",
      LogRecord.sizeFields size ++ [("code", StatusCode.name code)]⟩
    ↔ ∃ status, said = some (.error status) ∧ status.code = code
  panicked : ∀ reason, e = ⟨.error, "image classifier engine panicked", [("reason", reason)]⟩
    ↔ ∃ p, said = some (.panic p) ∧ p.reason = reason

/-- The record tells how the making of an instance ended, and which handle it was for. -/
structure TellsCreation {E : Type} (e : LogRecord) (handle : UInt64)
    (made : Outcome EngineStatus E) : Prop where
  registered : e = .registered handle ↔ ∃ engine, made = .ok engine
  failed : ∀ code, e = ⟨.warn, "classifier initialization failed",
      [("code", StatusCode.name code)]⟩
    ↔ ∃ status, made = .error status ∧ status.code = code
  panicked : ∀ reason, e = ⟨.error, "image classifier engine panicked", [("reason", reason)]⟩
    ↔ ∃ p, made = .panic p ∧ p.reason = reason

/-- The record of the event that ends a classify tells how it ended. -/
theorem tellsAnswer_ofAnswer (handle : UInt64) (size : Dimension)
    (said : Option (Outcome EngineStatus Classification)) :
    TellsAnswer (Event.ofAnswer handle size said).record handle size said.isSome said := by
  constructor
  case unknown =>
    refine (Event.record_inj (.useOfUnknown handle) rfl).trans ?_
    rcases said with _ | answer | status | p <;> simp [Event.ofAnswer]
  case classified =>
    refine fun heads => (Event.record_inj (.classified size heads) rfl).trans ?_
    rcases said with _ | answer | status | p <;> simp [Event.ofAnswer]
  case failed =>
    refine fun code => (Event.record_inj (.classificationFailed size code) rfl).trans ?_
    rcases said with _ | answer | status | p <;> simp [Event.ofAnswer]
  case panicked =>
    refine fun reason => (Event.record_inj (.enginePanicked reason) rfl).trans ?_
    rcases said with _ | answer | status | p <;> simp [Event.ofAnswer]

/-- The record of the event that ends an init tells how it ended. -/
theorem tellsCreation_ofCreation {E : Type} (handle : UInt64) (made : Outcome EngineStatus E) :
    TellsCreation (Event.ofCreation handle made).record handle made := by
  constructor
  case registered =>
    refine (Event.record_inj (.registered handle) rfl).trans ?_
    cases made <;> simp [Event.ofCreation]
  case failed =>
    refine fun code => (Event.record_inj (.creationFailed code) rfl).trans ?_
    cases made <;> simp [Event.ofCreation]
  case panicked =>
    refine fun reason => (Event.record_inj (.enginePanicked reason) rfl).trans ?_
    cases made <;> simp [Event.ofCreation]

namespace HostSession

variable {F E : Type} (family : EngineFamily F E)

/-- The handle whose instance a call takes out of the registry. -/
def removed? (s : HostSession F E) : HostCall F → Option UInt64
  | .deinit handle =>
    if (s.registry.instance? handle).isSome
        ∧ ((s.step family (.deinit handle)).2.1.registry.instance? handle).isNone then
      some handle
    else none
  | _ => none

/-- The handles whose instances some calls take out of the registry, in order. -/
def removed (s : HostSession F E) : List (HostCall F) → List UInt64
  | [] => []
  | call :: calls =>
    (s.removed? family call).toList ++ removed (s.step family call).2.1 calls

/-! ### One call -/

/-- A call takes an instance out of the registry if it is the deinit of a live handle. -/
theorem removed?_eq_some_iff {s : HostSession F E} (hs : s.registry.Exclusive)
    {call : HostCall F} {handle : UInt64} :
    s.removed? family call = some handle
      ↔ call = .deinit handle ∧ s.registry.contains handle = true := by
  cases call with
  | deinit target =>
      simp only [removed?, instance?_deinit family hs target, hs.isSome_instance?,
        Option.isNone_none, and_true, Option.ite_none_right_eq_some, Option.some.injEq,
        HostCall.deinit.injEq]
      constructor
      · rintro ⟨hlive, rfl⟩
        exact ⟨rfl, hlive⟩
      · rintro ⟨rfl, hlive⟩
        exact ⟨hlive, rfl⟩
  | _ => simp [removed?]

/-- The events of a call name the handle that it issues as registered, and the handle whose
instance it takes out of the registry as released. -/
theorem named_step {s : HostSession F E} (hs : s.registry.Exclusive) (call : HostCall F) :
    (s.step family call).2.2.filterMap Event.registered? = (s.step family call).1.issued?.toList
      ∧ (s.step family call).2.2.filterMap Event.released? = (s.removed? family call).toList := by
  -- Each kind of call, by what it writes: only inits name a handle as registered, and only
  -- deinits one as released.
  cases call with
  | install factory => exact ⟨rfl, rfl⟩
  | init model source =>
      cases hreached : s.reached? source with
      | none =>
          obtain ⟨hissued, hevents⟩ := step_init_of_not_reached family hreached model
          rw [hissued, hevents]
          exact ⟨rfl, rfl⟩
      | some found =>
          obtain ⟨hissued, hevents⟩ := step_init_of_reached? family hreached model
          rw [hissued, hevents]
          cases (family.create found.2 (found.1.engineConfig model)).1 <;> exact ⟨rfl, rfl⟩
  | classify handle pixels size =>
      cases hread : pixels.read with
      | error fault =>
          rw [events_classify_of_unreadable family s handle size hread]
          exact ⟨rfl, rfl⟩
      | ok data =>
          rw [events_classify family s handle size hread]
          rcases s.answer? family handle { data, dimension := size } with _ | _ | _ | _ <;>
          exact ⟨rfl, rfl⟩
  | deinit handle =>
      rw [events_deinit]
      cases hlive : s.registry.contains handle with
      | true =>
          rw [(removed?_eq_some_iff family hs).mpr ⟨rfl, hlive⟩]
          exact ⟨rfl, rfl⟩
      | false =>
          have hnone : s.removed? family (.deinit handle) = none := by
            rw [Option.eq_none_iff_forall_ne_some]
            intro other hother
            obtain ⟨hcall, hlive'⟩ := (removed?_eq_some_iff family hs).mp hother
            cases hcall
            rw [hlive] at hlive'
            cases hlive'
          rw [hnone]
          exact ⟨rfl, rfl⟩
  | liveHandles => exact ⟨rfl, rfl⟩
  | initLogging filter => exact ⟨rfl, rfl⟩

/-- A handle is live after a call that issued it, and after every call but its release if it
was live before. -/
theorem contains_step_iff (s : HostSession F E) (call : HostCall F) (handle : UInt64) :
    (s.step family call).2.1.registry.contains handle = true
      ↔ (s.step family call).1.issued? = some handle
        ∨ s.registry.contains handle = true ∧ call ≠ .deinit handle := by
  cases hnew : (s.step family call).1.issued? with
  | none =>
      rw [(step_of_not_issued family hnew).2 handle]
      simp
  | some new =>
      obtain ⟨-, -, hlive, hcall⟩ := step_of_issued family hnew
      rw [hlive, Option.some.injEq, and_iff_left (hcall handle), eq_comm]

/-! ### Whole runs -/

/-- The first call issues its handle before all others. -/
theorem issued_history_cons (s : HostSession F E) (call : HostCall F)
    (calls : List (HostCall F)) :
    (s.history family (call :: calls)).issued
      = (s.step family call).1.issued?.toList
        ++ ((s.step family call).2.1.history family calls).issued := by
  show History.issued ([] ++ [(call, (s.step family call).1)]
    ++ (s.step family call).2.1.history family calls) = _
  rw [History.issued_append, History.issued_concat]
  rfl

/-- The events of a run name the handles that it issues and those that it releases, in
order. -/
theorem named_of_run {s : HostSession F E} (hs : s.registry.Exclusive)
    (calls : List (HostCall F)) :
    (s.events family calls).filterMap Event.registered? = (s.history family calls).issued
      ∧ (s.events family calls).filterMap Event.released? = s.removed family calls := by
  -- By induction on the calls, as both sides begin with what the first call adds.
  induction calls generalizing s with
  | nil => exact ⟨rfl, rfl⟩
  | cons call calls ih =>
      obtain ⟨hregistered, hreleased⟩ := named_step family hs call
      obtain ⟨hissued, hremoved⟩ := ih (exclusive_step family hs call)
      rw [events_cons, List.filterMap_append, List.filterMap_append, hregistered, hreleased,
        hissued, hremoved, issued_history_cons]
      exact ⟨rfl, rfl⟩

/-- The records of one call say that a handle was registered if the call issued it, and that
it was released if the call is the deinit of a live handle. -/
theorem named_records {s : HostSession F E} (hs : s.registry.Exclusive) (call : HostCall F)
    (handle : UInt64) :
    (LogRecord.registered handle ∈ (s.step family call).2.2.map Event.record
        ↔ (s.step family call).1.issued? = some handle)
      ∧ (LogRecord.released handle ∈ (s.step family call).2.2.map Event.record
        ↔ call = .deinit handle ∧ s.registry.contains handle = true) := by
  obtain ⟨hregistered, hreleased⟩ := named_step family hs call
  rw [Event.registered_mem_iff, Event.released_mem_iff, hregistered, hreleased,
    Option.mem_toList, Option.mem_toList]
  exact ⟨Iff.rfl, removed?_eq_some_iff family hs⟩

/-- By the records of one call a handle is live if the call issued it. -/
theorem liveIn_step_iff {s : HostSession F E} (hs : s.registry.Exclusive) (call : HostCall F)
    (handle : UInt64) :
    LogRecord.LiveIn ((s.step family call).2.2.map Event.record) handle
      ↔ (s.step family call).1.issued? = some handle := by
  obtain ⟨hregistered, hreleased⟩ := named_records family hs call handle
  refine ⟨fun hlive => hregistered.mp hlive.registered_mem, fun hissued => ?_⟩
  -- A call that issues a handle is no deinit, so it releases nothing.
  refine LogRecord.liveIn_of_not_released (hregistered.mpr hissued) fun h => ?_
  exact (step_of_issued family hissued).2.2.2 handle (hreleased.mp h).1

/-- After every run a handle is live in the registry if it is live by the log. -/
theorem contains_iff_liveIn {s : HostSession F E} (hentries : s.registry.entries = [])
    (calls : List (HostCall F)) (handle : UInt64) :
    (s.after family calls).registry.contains handle = true
      ↔ LogRecord.LiveIn ((s.events family calls).map Event.record) handle := by
  -- From the front to the end, as the log decides by its latest part.
  induction calls using List.reverseRecOn with
  | nil =>
      rw [after_nil, events_nil, Registry.contains_iff_mem_handles, Registry.handles, hentries]
      simp [LogRecord.not_liveIn_nil]
  | append_singleton calls call ih =>
      have hs := exclusive_after family (.of_entries_eq_nil hentries) calls
      rw [after_append, after_cons, after_nil, contains_step_iff, events_concat, List.map_append,
        LogRecord.liveIn_append, liveIn_step_iff family hs, (named_records family hs call handle).2,
        ih]
      tauto

/-- What the log says to be released, it says to be registered. -/
theorem registered_of_released {s : HostSession F E} (hentries : s.registry.entries = [])
    (calls : List (HostCall F)) (handle : UInt64)
    (h : LogRecord.released handle ∈ (s.events family calls).map Event.record) :
    LogRecord.registered handle ∈ (s.events family calls).map Event.record := by
  induction calls using List.reverseRecOn with
  | nil => exact absurd h List.not_mem_nil
  | append_singleton calls call ih =>
      have hs := exclusive_after family (.of_entries_eq_nil hentries) calls
      rw [events_concat, List.map_append, List.mem_append] at h ⊢
      rcases h with hbefore | hnow
      · exact .inl (ih hbefore)
      · -- The release is of a live handle, and by the log so far it was registered.
        have hlive := ((named_records family hs call handle).2.mp hnow).2
        exact .inl ((contains_iff_liveIn family hentries calls handle).mp hlive).registered_mem

/-- As long as no handle is issued twice, what is live has no release in the log. -/
theorem not_released_of_contains {s : HostSession F E} (hentries : s.registry.entries = [])
    (calls : List (HostCall F)) (hnodup : (s.history family calls).issued.Nodup)
    {handle : UInt64} (hlive : (s.after family calls).registry.contains handle = true) :
    LogRecord.released handle ∉ (s.events family calls).map Event.record := by
  -- From the front to the end: the last call has issued the handle, or it was live before.
  induction calls using List.reverseRecOn with
  | nil => exact List.not_mem_nil
  | append_singleton calls call ih =>
      have hs := exclusive_after family (.of_entries_eq_nil hentries) calls
      rw [history_concat, History.issued_concat, List.nodup_append'] at hnodup
      rw [after_append, after_cons, after_nil, contains_step_iff] at hlive
      rw [events_concat, List.map_append, List.mem_append, not_or,
        (named_records family hs call handle).2]
      rcases hlive with hissued | ⟨hold, hcall⟩
      · refine ⟨fun hreleased => ?_,
          fun h => (step_of_issued family hissued).2.2.2 handle h.1⟩
        -- A handle that was released was issued before, and now it would be issued again.
        have hregistered := registered_of_released family hentries calls handle hreleased
        rw [Event.registered_mem_iff,
          (named_of_run family (.of_entries_eq_nil hentries) calls).1] at hregistered
        exact hnodup.2.2 hregistered (Option.mem_toList.mpr hissued)
      · exact ⟨ih hnodup.1 hold, fun h => hcall h.1⟩

/-- Take any run from a registry without entries, with everything recorded. The handles that
the log calls registered are those that the replies handed out, in order, and the handles
that it calls released are those whose deinit took an instance out of the registry. At the
end of the run, which may be any point of a longer one, the live handles are those that were
registered and not released since; while the handles last, none is registered twice, and the
live ones are those that were registered and not released at all. What a next call would
add is this:

* a classify whose buffer can be read says so, with its handle, its size and its length, and
  then how it ended, by one record more;
* an init that gets as far as the factory says for which model and with which settings, and
  then how it ended, by one record more;
* a classify or an init that is refused before that says nothing, and a deinit says whether
  there was something to release. -/
theorem log_of_run {s : HostSession F E} (hentries : s.registry.entries = [])
    (calls : List (HostCall F)) :
    let log := (s.events family calls).map Event.record
    let now := s.after family calls
    let added (call : HostCall F) := (now.step family call).2.2.map Event.record
    log.filter (fun r => r.message = "registered image classifier")
        = (s.history family calls).issued.map LogRecord.registered
      ∧ log.filter (fun r => r.message = "released image classifier")
        = (s.removed family calls).map LogRecord.released
      ∧ (∀ handle, now.registry.contains handle = true ↔ LogRecord.LiveIn log handle)
      ∧ (s.registry.next = 1 → (s.history family calls).issued.length < 2 ^ 64 - 1 →
          (s.history family calls).issued.Nodup
            ∧ ∀ handle, now.registry.contains handle = true
              ↔ LogRecord.registered handle ∈ log ∧ LogRecord.released handle ∉ log)
      ∧ (∀ handle pixels size data, pixels.read = .ok data →
          ∃ e, added (.classify handle pixels size)
              = [⟨.debug, "classify", LogRecord.handleField handle :: (LogRecord.sizeFields size
                  ++ [("len", Nat.repr data.size)])⟩, e]
            ∧ TellsAnswer e handle size (now.registry.contains handle)
                (now.answer? family handle { data, dimension := size })
            ∧ (pixels.Holds → data.size = pixels.length))
      ∧ (∀ model source settings factory, now.reached? source = some (settings, factory) →
          ∃ e, added (.init model source)
              = [⟨.debug, "creating image classifier", [("fd", Event.integer model.fd.toInt),
                  ("length", Event.integer model.length.toInt),
                  ("offset", Event.integer model.offset.toInt),
                  ("max_results", Event.integer settings.maxResults.toInt),
                  ("score_threshold", Event.thresholdText settings.threshold)]⟩, e]
            ∧ TellsCreation e now.registry.next
                (family.create factory (settings.engineConfig model)).1)
      ∧ (∀ handle pixels size fault, pixels.read = .error fault →
          added (.classify handle pixels size) = [])
      ∧ (∀ model source, now.reached? source = none → added (.init model source) = [])
      ∧ ∀ handle, added (.deinit handle) = [if now.registry.contains handle then .released handle
          else ⟨.warn, "release of unknown classifier handle",
              [LogRecord.handleField handle]⟩] := by
  intro log now added
  have hs : s.registry.Exclusive := .of_entries_eq_nil hentries
  obtain ⟨hissued, hremoved⟩ := named_of_run family hs calls
  have hlive := contains_iff_liveIn family hentries calls
  -- The first parts are about the run so far, the others about one call more.
  refine ⟨?registered, ?released, hlive, ?counted, ?classify, ?init, ?unreadable, ?unreached,
    ?deinit⟩
  case registered => rw [Event.filter_registered, hissued]
  case released => rw [Event.filter_released, hremoved]
  case counted =>
    intro hnext hfew
    have hnodup := (tracks_after family hnext hentries calls hfew).issued_nodup
    refine ⟨hnodup, fun handle => ⟨fun h => ?_, fun h => ?_⟩⟩
    · exact ⟨((hlive handle).mp h).registered_mem,
        not_released_of_contains family hentries calls hnodup h⟩
    · exact (hlive handle).mpr (LogRecord.liveIn_of_not_released h.1 h.2)
  case classify =>
    intro handle pixels size data hread
    have hsome : now.registry.contains handle
        = (now.answer? family handle { data, dimension := size }).isSome := by
      rw [answer?, Option.isSome_map, (exclusive_after family hs calls).isSome_instance?]
    refine ⟨_, congrArg (List.map Event.record) (events_classify family now handle size hread),
      ?_, fun hholds => (HostPixels.carries_of_read hread hholds).size_eq⟩
    rw [hsome]
    exact tellsAnswer_ofAnswer handle size _
  case init =>
    intro model source settings factory hreached
    exact ⟨_, congrArg (List.map Event.record) (step_init_of_reached? family hreached model).2,
      tellsCreation_ofCreation _ _⟩
  case unreadable =>
    intro handle pixels size fault hread
    exact congrArg (List.map Event.record)
      (events_classify_of_unreadable family now handle size hread)
  case unreached =>
    intro model source hreached
    exact congrArg (List.map Event.record) (step_init_of_not_reached family hreached model).2
  case deinit =>
    intro handle
    refine (congrArg (List.map Event.record) (events_deinit family now handle)).trans ?_
    split <;> rfl

/-- Two inits and a deinit of each kind. The next classify on the second handle gets an
answer with a label that the host cannot be shown, which the log does not say; the one after
it breaks off, which the log does say. -/
theorem log_of_run_script :
    let answer : Classification := ⟨[⟨0, [⟨281, Binary.ofInt 1, "cat", "a\x00b"⟩]⟩, ⟨1, []⟩]⟩
    let script : Script := ⟨.ok (), [.ok answer, .panic (.text "broken")]⟩
    let calls : List (HostCall SampleFactory) :=
      [.install (.script script), .init {} (.structure none), .init {} (.structure none),
        .deinit 1, .deinit 7]
    let classify : HostCall SampleFactory := .classify 2 ⟨none, 0⟩ ⟨4, 3⟩
    let s : HostSession SampleFactory SampleEngine := {}
    let log (calls : List (HostCall SampleFactory)) :=
      (s.events sampleFamily calls).map Event.record
    let called : LogRecord := ⟨.debug, "classify",
      [("handle", "2"), ("width", "4"), ("height", "3"), ("len", "0")]⟩
    (s.registry.entries = [] ∧ s.registry.next = 1
        ∧ (s.history sampleFamily calls).issued.length < 2 ^ 64 - 1
        ∧ HostPixels.read ⟨none, 0⟩ = .ok ByteArray.empty)
      ∧ (log calls).filter (fun r => r.message = "registered image classifier")
        = [.registered 1, .registered 2]
      ∧ (log calls).filter (fun r => r.message = "released image classifier") = [.released 1]
      ∧ (LogRecord.registered 2 ∈ log calls ∧ LogRecord.released 2 ∉ log calls)
      ∧ ((s.after sampleFamily calls).step sampleFamily classify).2.2.map Event.record
        = [called, ⟨.debug, "classified frame",
          [("width", "4"), ("height", "3"), ("heads", "2")]⟩]
      ∧ ((s.after sampleFamily (calls ++ [classify])).step sampleFamily classify).2.2.map
          Event.record
        = [called, ⟨.error, "image classifier engine panicked", [("reason", "broken")]⟩] := by
  intro answer script calls classify s log called
  have hissued : (s.history sampleFamily calls).issued = [1, 2] := by decide
  have hfew : (s.history sampleFamily calls).issued.length < 2 ^ 64 - 1 := by
    rw [hissued]
    decide
  have hread : HostPixels.read ⟨none, 0⟩ = .ok ByteArray.empty := rfl
  obtain ⟨hregistered, hreleased, -, hset, hclassify, -⟩ := log_of_run sampleFamily
    (s := s) rfl calls
  obtain ⟨-, -, -, -, hagain, -⟩ := log_of_run sampleFamily (s := s) rfl (calls ++ [classify])
  obtain ⟨e, hadded, htells, -⟩ := hclassify 2 _ ⟨4, 3⟩ _ hread
  obtain ⟨e', hadded', htells', -⟩ := hagain 2 _ ⟨4, 3⟩ _ hread
  refine ⟨⟨rfl, rfl, hfew, hread⟩, ?_, ?_, ((hset rfl hfew).2 2).mp rfl, ?_, ?_⟩
  · rw [hissued] at hregistered
    exact hregistered
  · have hremoved : s.removed sampleFamily calls = [1] := by decide
    rw [hremoved] at hreleased
    exact hreleased
  · refine hadded.trans ?_
    rw [(htells.classified 2).mpr ⟨answer, rfl, rfl⟩]
    rfl
  · refine hadded'.trans ?_
    rw [(htells'.panicked "broken").mpr ⟨.text "broken", rfl, rfl⟩]
    rfl

end HostSession

end ClassifierBridge
