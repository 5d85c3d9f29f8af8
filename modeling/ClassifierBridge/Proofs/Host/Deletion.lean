import ClassifierBridge.Engines.Sample
import ClassifierBridge.Proofs.Host.Run

/-!
# `ClassifierBridge.Proofs.Host.Deletion`: failed calls leave no trace

Some calls are refused before they have done anything: an init without a
classifier in the end, a classify that never reaches an engine, a deinit of a
handle that is not live. `HostSession.RefusedEarly` lists them. If factories keep
no state, such a call leaves the session exactly as it was, so a run in which any
number of them is deleted cannot be told from the whole run by what is left.

The calls of a run are marked, `false` for the ones that are deleted.

* `step_of_refusedEarly`: the session after one such call.
* `run_kept`: the run without them.
-/

set_option autoImplicit false

namespace ClassifierBridge

/-- What is left of a marked list. -/
def kept {α : Type} (marked : List (α × Bool)) : List α := (marked.filter Prod.snd).map Prod.fst

/-- What is marked to stay stays. -/
theorem kept_cons_true {α : Type} (a : α) (marked : List (α × Bool)) :
    kept ((a, true) :: marked) = a :: kept marked := rfl

/-- What is not marked goes. -/
theorem kept_cons_false {α : Type} (a : α) (marked : List (α × Bool)) :
    kept ((a, false) :: marked) = kept marked := rfl

namespace HostSession

variable {F E : Type} (family : EngineFamily F E)

/-- The calls that end before they change anything: an init that hands out no
handle, a classify whose buffer is refused or whose handle is not live, a deinit of
a handle that is not live. -/
def RefusedEarly (s : HostSession F E) : HostCall F → Prop
  | .init model source => (s.step family (.init model source)).1.issued? = none
  | .classify handle pixels _ =>
      pixels.Missing ∨ HostPixels.lengthLimit < pixels.length ∨ s.registry.contains handle = false
  | .deinit handle => s.registry.contains handle = false
  | _ => False

/-- Every call that is marked for deletion is refused early where it stands. -/
def Deletable (s : HostSession F E) : List (HostCall F × Bool) → Prop
  | [] => True
  | (call, stays) :: rest =>
      (stays = false → s.RefusedEarly family call) ∧ (s.step family call).2.1.Deletable rest

/-! ### One call -/

/-- A buffer is refused for a missing pointer or for its length. -/
theorem exists_fault_of_refused {pixels : HostPixels}
    (hrefused : pixels.Missing ∨ HostPixels.lengthLimit < pixels.length) :
    ∃ fault, pixels.read = .error fault := by
  rcases pixels.read_cases with ⟨-, hread⟩ | ⟨-, -, hread⟩ | ⟨hthere, hshort, -⟩
  · exact ⟨_, hread⟩
  · exact ⟨_, hread⟩
  · rcases hrefused with hmissing | hlong
    · exact absurd hmissing hthere
    · exact absurd hlong (Nat.not_lt_of_le hshort)

/-- An init has nothing to do with the installed factory, if factories keep no state,
nor with the filter. -/
theorem init_rest (hstateless : ∀ factory config, (family.create factory config).2 = factory)
    (s : HostSession F E) (model : ModelRegion) (source : SettingsSource) :
    (s.init family model source).2.1.factory = s.factory
      ∧ (s.init family model source).2.1.filter = s.filter := by
  constructor
  · show (s.step family (.init model source)).2.1.factory = s.factory
    rw [factory_step family s]
    · simp only [family.afterRequests_of_stateless hstateless, Option.map_id']
    · nofun
  · simp only [init]
    cases source.read with
    | error failure => rfl
    | ok settings => cases s.factory <;> rfl

/-- A call that is refused early leaves the session as it was. -/
theorem step_of_refusedEarly
    (hstateless : ∀ factory config, (family.create factory config).2 = factory)
    {s : HostSession F E} {call : HostCall F} (hrefused : s.RefusedEarly family call) :
    (s.step family call).2.1 = s := by
  -- The calls that are never refused early are those that can only change something.
  cases call with
  | install factory => cases hrefused
  | init model source =>
      show (s.init family model source).2.1 = s
      obtain ⟨hfactory, hfilter⟩ := init_rest family hstateless s model source
      -- No handle was handed out, so the registry is what it was.
      have hregistry : (s.init family model source).2.1.registry = s.registry := by
        rcases init_cases family s model source with ⟨_, -, h⟩ | ⟨_, _, _, -, -, -, hok, -⟩
        · exact h
        · have hnone : (s.step family (.init model source)).1.issued? = none := hrefused
          change (HostReply.init (InitReply.ofResult (s.init family model source).1)).issued?
            = none at hnone
          rw [issued?_init, hok] at hnone
          cases hnone
      generalize (s.init family model source).2.1 = t at *
      obtain ⟨_, _, _⟩ := t
      obtain ⟨_, _, _⟩ := s
      cases hregistry
      cases hfactory
      cases hfilter
      rfl
  | classify handle pixels size =>
      show (s.classify family handle pixels size).2.1 = s
      rcases classify_cases family s handle pixels size with
        ⟨_, -, -, h⟩ | ⟨_, -, -, -, h⟩ | ⟨data, ref, engine, hread, hfind, -, -⟩
      · exact h
      · exact h
      · -- The call asked an instance, which no refused call gets to.
        exfalso
        rcases hrefused with hnull | hlong | hdead
        · obtain ⟨fault, hfault⟩ := exists_fault_of_refused (.inl hnull)
          rw [hfault] at hread
          cases hread
        · obtain ⟨fault, hfault⟩ := exists_fault_of_refused (.inr hlong)
          rw [hfault] at hread
          cases hread
        · rw [Registry.contains, Option.isSome_eq_false_iff, Option.isNone_iff_eq_none] at hdead
          rw [Registry.find, hdead] at hfind
          cases hfind
  | deinit handle =>
      have hdead : s.registry.ref? handle = none :=
        Option.isNone_iff_eq_none.mp (Option.isSome_eq_false_iff.mp hrefused)
      show { s with registry := (s.registry.release handle).2.1 } = s
      rw [Registry.release, hdead]
  | liveHandles => cases hrefused
  | initLogging filter => cases hrefused

/-! ### A whole run -/

/-- Marks are deletable if each marked call is refused early in the session in which
it is made. -/
theorem deletable_iff {s : HostSession F E} {marked : List (HostCall F × Bool)} :
    s.Deletable family marked
      ↔ ∀ before call later, marked = before ++ (call, false) :: later →
        (s.after family (before.map Prod.fst)).RefusedEarly family call := by
  -- The induction is on the marked calls, and the session moves on with each of them.
  induction marked generalizing s with
  | nil =>
      constructor
      · intro _ before call later hsplit
        cases before <;> cases hsplit
      · intro _
        trivial
  | cons entry rest ih =>
      obtain ⟨call, stays⟩ := entry
      show (_ ∧ _) ↔ _
      rw [ih]
      constructor
      · rintro ⟨hhead, htail⟩ before other later hsplit
        -- The marked call is the first one or stands behind it.
        cases before with
        | nil =>
            cases hsplit
            exact hhead rfl
        | cons first before =>
            cases hsplit
            exact htail before other later rfl
      · intro hall
        refine ⟨?_, fun before other later hsplit => ?_⟩
        · rintro rfl
          exact hall [] call rest rfl
        · exact hall ((call, stays) :: before) other later (by rw [hsplit]; rfl)

/-- Deleted calls change neither the replies to the calls that stay nor the session
at the end. -/
theorem run_of_deletable
    (hstateless : ∀ factory config, (family.create factory config).2 = factory)
    {s : HostSession F E} {marked : List (HostCall F × Bool)}
    (hmarked : s.Deletable family marked) :
    s.replies family (kept marked)
        = kept ((s.replies family (marked.map Prod.fst)).zip (marked.map Prod.snd))
      ∧ s.after family (kept marked) = s.after family (marked.map Prod.fst) := by
  -- By induction on the calls: a call that stays is made on both sides, and one that goes left
  -- the session as it was.
  induction marked generalizing s with
  | nil => exact ⟨rfl, rfl⟩
  | cons entry rest ih =>
      obtain ⟨call, stays⟩ := entry
      obtain ⟨hcall, hrest⟩ := hmarked
      obtain ⟨hreplies, hafter⟩ := ih hrest
      rw [List.map_cons, List.map_cons, replies_cons, List.zip_cons_cons, after_cons]
      cases stays with
      | true =>
          rw [kept_cons_true, kept_cons_true, replies_cons, after_cons, hreplies]
          exact ⟨rfl, hafter⟩
      | false =>
          have hsame := step_of_refusedEarly family hstateless (hcall rfl)
          rw [hsame] at hreplies hafter ⊢
          rw [kept_cons_false, kept_cons_false]
          exact ⟨hreplies, hafter⟩

/-- Failed calls leave no trace. Take any run of calls with factories that keep no
state, and delete from it any number of calls that are refused early where they
stand. The calls that stay get the replies that they got in the whole run, and the
session at the end is the same: the installed factory, the next handle, the live
handles, and every instance behind them. -/
theorem run_kept (hstateless : ∀ factory config, (family.create factory config).2 = factory)
    (s : HostSession F E) (marked : List (HostCall F × Bool))
    (hmarked : ∀ before call later, marked = before ++ (call, false) :: later →
      (s.after family (before.map Prod.fst)).RefusedEarly family call) :
    s.replies family (kept marked)
        = kept ((s.replies family (marked.map Prod.fst)).zip (marked.map Prod.snd))
      ∧ s.after family (kept marked) = s.after family (marked.map Prod.fst) :=
  run_of_deletable family hstateless ((deletable_iff family).mpr hmarked)

/-- An init without a factory, one that the engine refuses and one that breaks off, a
classify of nothing, and a handle that is released twice. -/
theorem run_kept_refusals :
    let broken : Script := ⟨.panic .other, []⟩
    let calls : List (HostCall SampleFactory × Bool) :=
      [(.init {} (.structure none), false), (.install .brightness, true),
        (.init { fd := -1 } (.structure none), false), (.init {} (.structure none), true),
        (.install (.script broken), true), (.init {} (.structure none), false),
        (.classify 1 ⟨none, 7⟩ ⟨0, 0⟩, false), (.classify 1 ⟨none, 0⟩ ⟨0, 0⟩, true),
        (.deinit 1, true), (.deinit 1, false), (.classify 1 ⟨none, 0⟩ ⟨0, 0⟩, false),
        (.liveHandles, true)]
    let s : HostSession SampleFactory SampleEngine := {}
    ((∀ factory config, (sampleFamily.create factory config).2 = factory)
        ∧ s.Deletable sampleFamily calls)
      ∧ s.replies sampleFamily (kept calls)
        = kept ((s.replies sampleFamily (calls.map Prod.fst)).zip (calls.map Prod.snd)) := by
  intro broken calls s
  have hstateless : ∀ factory config, (sampleFamily.create factory config).2 = factory :=
    fun _ _ => rfl
  have hdeletable : s.Deletable sampleFamily calls := by
    refine ⟨fun _ => rfl, nofun, fun _ => rfl, nofun, nofun, fun _ => rfl,
      fun _ => .inl ⟨rfl, by decide⟩, nofun, nofun, fun _ => rfl, fun _ => .inr (.inr rfl), nofun,
      trivial⟩
  exact ⟨⟨hstateless, hdeletable⟩,
    (run_kept sampleFamily hstateless s calls ((deletable_iff sampleFamily).mp hdeletable)).1⟩

end HostSession

end ClassifierBridge
