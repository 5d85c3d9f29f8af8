import ClassifierBridge.Engines.Sample
import ClassifierBridge.Proofs.Registry.Ownership
import ClassifierBridge.Registry.Holder
import Mathlib.Data.Set.Card

/-!
# `ClassifierBridge.Proofs.Registry.Lifetime`: every instance is destroyed exactly once

A holder makes instances, keeps references to them, and lets go of them in any order.
`Holder.Refers` says that a live handle or a kept reference leads to an instance. An
instance is there as long as it is referred to and is destroyed by the call that takes
the last reference away.

* `Moves`, `moves_step`: the ways in which a call can move ownership, said once for all
  calls.
* `counted_after`: the owners of an instance are the entries and the kept references that
  lead to it, after any calls.
* `gone_after_iff`: an instance is gone from the first call on after which nothing refers
  to it.
* `count_destructions`: no instance is destroyed twice, and none that is referred to.
* `instance_destroyed_once`: the life of an instance, over whole runs.
-/

set_option autoImplicit false

namespace ClassifierBridge.Holder

variable {F E : Type} (family : EngineFamily F E)

/-! ### Runs -/

/-- The holder after some calls. -/
def after (h : Holder E) (calls : List (HolderCall F)) : Holder E :=
  calls.foldl (fun h call => (h.step family call).2.1) h

/-- Some calls with their replies. -/
def trace (h : Holder E) : List (HolderCall F) → List (HolderCall F × HolderReply)
  | [] => []
  | call :: calls => (call, (h.step family call).1) :: trace (h.step family call).2.1 calls

/-- A run takes its first call and goes on from there. -/
theorem after_cons (h : Holder E) (call : HolderCall F) (calls : List (HolderCall F)) :
    h.after family (call :: calls) = (h.step family call).2.1.after family calls := rfl

/-- A run can be cut in two anywhere. -/
theorem after_append (h : Holder E) (calls more : List (HolderCall F)) :
    h.after family (calls ++ more) = (h.after family calls).after family more :=
  List.foldl_append

/-- The call made an instance: it asked for one and was answered with its handle. -/
def makes : HolderCall F × HolderReply → Bool
  | (.create .., .handle _) | (.insert .., .handle _) => true
  | _ => false

/-- A live handle or a kept reference leads to the instance. -/
def Refers (h : Holder E) (ref : Nat) : Prop :=
  (∃ handle, h.registry.ref? handle = some ref) ∨ ∃ number, h.kept? number = some ref

/-- The number of kept references to an instance. -/
def keeps (h : Holder E) (ref : Nat) : Nat := h.kept.count (some ref)

/-- The instances that were there, or were not made yet, and are gone at a later time. -/
def lost (before later : Holder E) : List Nat :=
  (List.range later.registry.pool.created).filter fun ref =>
    decide (later.registry.pool.Gone ref ∧ ¬ before.registry.pool.Gone ref)

/-- The instances that calls destroy, in the order of the calls. -/
def destructions (h : Holder E) : List (HolderCall F) → List Nat
  | [] => []
  | call :: calls =>
    lost h (h.step family call).2.1 ++ destructions (h.step family call).2.1 calls

/-! ### The ways a call can move ownership -/

/-- What a call makes of a holder, as far as ownership goes. -/
inductive Moves (h : Holder E) : Holder E → Prop
  | stay : Moves h h
  /-- a new instance and its handle -/
  | make (engine : E) : Moves h { h with registry := (h.registry.insert engine).2 }
  /-- a call on an instance -/
  | ask (ref : Nat) (engine : E) :
      Moves h { h with registry := { h.registry with pool := h.registry.pool.update ref engine } }
  | release (handle : UInt64) : Moves h { h with registry := (h.registry.release handle).2.1 }
  /-- a reference is handed out and kept -/
  | keep {handle : UInt64} {ref : Nat} (hfound : h.registry.ref? handle = some ref) :
      Moves h ⟨{ h.registry with pool := h.registry.pool.share ref }, h.kept ++ [some ref]⟩
  /-- one more handle for the instance of a kept reference -/
  | insertKept {number ref : Nat} (hfound : h.kept? number = some ref) :
      Moves h { h with registry := (h.registry.insertShared ref).2 }
  | drop {number ref : Nat} (hfound : h.kept? number = some ref) :
      Moves h ⟨h.registry.letGo ref, h.kept.set number none⟩

/-- A create that is answered with a handle makes an instance under the next handle; any
other leaves the holder as it was. -/
theorem step_create_cases (h : Holder E) (factory : F) (settings : Settings)
    (model : ModelRegion) :
    (∃ engine factory', family.create factory (settings.engineConfig model) = (.ok engine, factory')
        ∧ (h.step family (.create factory settings model)).1 = .handle h.registry.next
        ∧ (h.step family (.create factory settings model)).2.1
          = { h with registry := (h.registry.insert engine).2 })
      ∨ ((∀ handle, (h.step family (.create factory settings model)).1 ≠ .handle handle)
        ∧ (h.step family (.create factory settings model)).2.1 = h) := by
  simp only [step, Registry.create, Classifier.create]
  rcases family.create factory (settings.engineConfig model) with ⟨_ | _ | _, factory'⟩
  · exact .inl ⟨_, _, rfl, rfl, rfl⟩
  · exact .inr ⟨nofun, rfl⟩
  · exact .inr ⟨nofun, rfl⟩

/-- The same for an instance that is made without the registry's help. -/
theorem step_insert_cases (h : Holder E) (factory : F) (model : ModelRegion) :
    (∃ engine, (h.step family (.insert factory model)).1 = .handle h.registry.next
        ∧ (h.step family (.insert factory model)).2.1
          = { h with registry := (h.registry.insert engine).2 })
      ∨ ((∀ handle, (h.step family (.insert factory model)).1 ≠ .handle handle)
        ∧ (h.step family (.insert factory model)).2.1 = h) := by
  simp only [step]
  rcases family.create factory (({} : Settings).engineConfig model) with ⟨_ | _ | _, factory'⟩
  · exact .inl ⟨_, rfl, rfl⟩
  · exact .inr ⟨nofun, rfl⟩
  · exact .inr ⟨nofun, rfl⟩

/-- Every call moves ownership in one of the ways of `Moves`, so what they keep is
kept by all calls. -/
theorem moves_step (h : Holder E) (call : HolderCall F) : h.Moves (h.step family call).2.1 := by
  cases call with
  | create factory settings model =>
      rcases step_create_cases family h factory settings model with
        ⟨engine, _, -, -, hstep⟩ | ⟨-, hstep⟩
      · rw [hstep]; exact .make engine
      · rw [hstep]; exact .stay
  | insert factory model =>
      rcases step_insert_cases family h factory model with ⟨engine, -, hstep⟩ | ⟨-, hstep⟩
      · rw [hstep]; exact .make engine
      · rw [hstep]; exact .stay
  | classify handle frame =>
      simp only [step, Registry.classify]
      cases h.registry.find handle with
      | none => exact .stay
      | some found => exact .ask ..
  | release handle => exact .release handle
  | contains handle => exact .stay
  | acquire handle =>
      simp only [step, Registry.acquire]
      cases href : h.registry.ref? handle with
      | none => exact .stay
      | some ref => exact .keep href
  | insertKept number =>
      simp only [step]
      cases hkept : h.kept? number with
      | none => exact .stay
      | some ref => exact .insertKept hkept
  | classifyKept number frame =>
      simp only [step]
      cases h.kept? number with
      | none => exact .stay
      | some ref =>
          simp only
          cases h.registry.pool.engine? ref with
          | none => exact .stay
          | some engine => exact .ask ..
  | drop number =>
      simp only [step]
      cases hkept : h.kept? number with
      | none => exact .stay
      | some ref => exact .drop hkept

/-! ### Owners along a run -/

/-- The owners of each instance are the entries and the kept references that lead to it. -/
def Counted (h : Holder E) : Prop := h.registry.Counted h.keeps

/-- A reference is kept if its place in the list is filled. -/
theorem kept?_eq_some_iff {h : Holder E} {number ref : Nat} :
    h.kept? number = some ref ↔ h.kept[number]? = some (some ref) := Option.join_eq_some_iff

/-- A reference that is kept is one of the list. -/
theorem mem_kept_of_kept? {h : Holder E} {number ref : Nat} (hkept : h.kept? number = some ref) :
    some ref ∈ h.kept := List.mem_of_getElem? (kept?_eq_some_iff.mp hkept)

/-- One more kept reference is one more owner outside the registry. -/
theorem keeps_append (h : Holder E) (registry : Registry E) (ref : Nat) :
    (⟨registry, h.kept ++ [some ref]⟩ : Holder E).keeps = oneMore h.keeps ref := by
  funext other
  unfold keeps oneMore
  rw [List.count_append, List.count_singleton]
  simp only [beq_iff_eq, Option.some.injEq, eq_comm (a := ref)]

/-- A reference that is dropped was one of those kept. -/
theorem keeps_eq_of_drop {h : Holder E} {number ref : Nat} (hkept : h.kept? number = some ref)
    (registry : Registry E) :
    h.keeps = oneMore (⟨registry, h.kept.set number none⟩ : Holder E).keeps ref := by
  obtain ⟨hlt, hat⟩ := List.getElem?_eq_some_iff.mp (kept?_eq_some_iff.mp hkept)
  funext other
  have hpos : other = ref → 0 < h.kept.count (some other) := by
    rintro rfl
    exact List.count_pos_iff.mpr (mem_kept_of_kept? hkept)
  show h.kept.count (some other)
    = (h.kept.set number none).count (some other) + if other = ref then 1 else 0
  rw [List.count_set hlt, hat]
  -- Emptying the place takes one from the count of its own reference and nothing from others.
  by_cases hother : other = ref
  · have := hpos hother
    simp only [hother, beq_self_eq_true, if_true] at this ⊢
    simp
    omega
  · simp [hother, Ne.symm hother]

/-- No call loses count. -/
theorem counted_of_moves {h later : Holder E} (hcount : h.Counted) (hmoves : h.Moves later) :
    later.Counted := by
  -- One case for each way to move ownership; the registry has said what becomes of the count.
  cases hmoves with
  | stay => exact hcount
  | make engine => exact hcount.counted_insert engine
  | ask ref engine => exact hcount.counted_update ref engine
  | release handle => exact hcount.counted_release handle
  | keep hfound =>
      unfold Counted
      rw [keeps_append]
      exact hcount.counted_share (hcount.owners_pos hfound)
  | @insertKept number ref hfound =>
      refine hcount.counted_insertShared ?_
      have hkept : 0 < h.keeps ref := List.count_pos_iff.mpr (mem_kept_of_kept? hfound)
      rw [hcount.owners_eq]
      omega
  | @drop number ref hfound =>
      unfold Counted at hcount
      rw [keeps_eq_of_drop hfound (h.registry.letGo ref)] at hcount
      exact hcount.counted_letGo

/-- Owners stay counted over a run, by induction on its calls. -/
theorem counted_after {h : Holder E} (hcount : h.Counted) (calls : List (HolderCall F)) :
    (h.after family calls).Counted := by
  induction calls generalizing h with
  | nil => exact hcount
  | cons call calls ih => exact ih (counted_of_moves hcount (moves_step family h call))

/-- A holder that starts with nothing has all its owners counted. -/
theorem counted_empty : ({} : Holder E).Counted := Registry.Counted.empty

/-! ### Instances that are there -/

/-- What a handle or a kept reference leads to is there, and nothing else is. -/
theorem engine?_eq_none_iff {h : Holder E} (hcount : h.Counted) (ref : Nat) :
    h.registry.pool.engine? ref = none ↔ ¬ h.Refers ref := by
  rw [hcount.noneIdle.engine?_eq_none_iff, hcount.owners_eq, Nat.add_eq_zero_iff]
  unfold Refers Registry.references keeps
  rw [List.count_eq_zero, List.count_eq_zero, not_or]
  -- No owner at all means no entry and no kept reference.
  refine and_congr (not_congr ?_) (not_congr ?_)
  · constructor
    · intro hmem
      obtain ⟨⟨handle, _⟩, hentry, rfl⟩ := List.mem_map.mp hmem
      exact ⟨handle, (Registry.ref?_eq_some_iff_mem hcount.handles_nodup).mpr hentry⟩
    · rintro ⟨handle, href⟩
      exact List.mem_map_of_mem (Registry.mem_entries_of_ref? href)
  · constructor
    · intro hmem
      obtain ⟨number, hat⟩ := List.getElem?_of_mem hmem
      exact ⟨number, kept?_eq_some_iff.mpr hat⟩
    · rintro ⟨number, hkept⟩
      exact mem_kept_of_kept? hkept

/-- With owners counted, an instance is gone if it was made and nothing refers to it. -/
theorem gone_iff {h : Holder E} (hcount : h.Counted) (ref : Nat) :
    h.registry.pool.Gone ref ↔ ref < h.registry.pool.created ∧ ¬ h.Refers ref :=
  and_congr_right fun _ => engine?_eq_none_iff hcount ref

/-- The places of a list that are not empty, counted in two ways. -/
theorem ncard_occupied {α : Type} (places : List (Option α)) :
    {i : Nat | places[i]?.join ≠ none}.ncard = places.countP Option.isSome := by
  let occupied := (List.range places.length).filter fun i => places[i]?.join.isSome
  have hset : {i : Nat | places[i]?.join ≠ none} = (occupied.toFinset : Set Nat) := by
    ext i
    rw [Set.mem_ofPred_eq, Finset.mem_coe, List.mem_toFinset, List.mem_filter, List.mem_range,
      ← Option.isSome_iff_ne_none]
    refine ⟨fun hsome => ⟨?_, hsome⟩, And.right⟩
    by_contra hout
    rw [List.getElem?_eq_none (Nat.le_of_not_lt hout)] at hsome
    cases hsome
  -- A list is its own places in order, so counting values is counting places.
  have hplaces : places = (List.range places.length).map fun i => places[i]?.join := by
    refine List.ext_getElem (by simp) fun i hi _ => ?_
    simp [List.getElem?_eq_getElem hi]
  have hcount : places.countP Option.isSome = occupied.length := by
    conv_lhs => rw [hplaces]
    rw [List.countP_map, List.countP_eq_length_filter]
    rfl
  rw [hset, hcount, Set.ncard_coe_finset, List.toFinset_card_of_nodup (List.nodup_range.filter _)]

/-- Every instance that was made was destroyed or is referred to. -/
theorem created_eq {h : Holder E} (hcount : h.Counted) :
    h.registry.pool.created = h.registry.pool.destroyed + {ref | h.Refers ref}.ncard := by
  have hset : {ref | h.Refers ref} = {ref | h.registry.pool.places[ref]?.join ≠ none} := by
    ext ref
    have hthere := not_congr (engine?_eq_none_iff hcount ref)
    rw [Pool.engine?, Option.map_eq_none_iff, not_not] at hthere
    exact hthere.symm
  rw [hset, ncard_occupied]
  unfold Pool.created Pool.destroyed
  rw [List.length_eq_countP_add_countP Option.isNone]
  congr 2
  funext place
  cases place <;> rfl

/-! ### Destruction along a run -/

/-- No move of ownership brings an instance back. -/
theorem succeeds_of_moves {h later : Holder E} (hmoves : h.Moves later) :
    later.registry.pool.Succeeds h.registry.pool := by
  cases hmoves with
  | stay => exact .refl _
  | make engine => exact Registry.succeeds_insert h.registry engine
  | ask ref engine => exact .of_update ..
  | release handle => exact Registry.succeeds_release h.registry handle
  | keep hfound => exact .of_share ..
  | insertKept hfound => exact Registry.succeeds_insertShared h.registry _
  | drop hfound => exact .of_letGo ..

/-- No run brings an instance back. -/
theorem succeeds_after (h : Holder E) (calls : List (HolderCall F)) :
    (h.after family calls).registry.pool.Succeeds h.registry.pool := by
  induction calls generalizing h with
  | nil => exact .refl _
  | cons call calls ih => exact (ih _).trans (succeeds_of_moves (moves_step family h call))

/-- An instance is gone from the first call on after which nothing refers to it. -/
theorem gone_after_iff {h : Holder E} (hcount : h.Counted) {ref : Nat}
    (hmade : ref < h.registry.pool.created) (calls : List (HolderCall F)) :
    (h.after family calls).registry.pool.engine? ref = none
      ↔ ∃ early, early <+: calls ∧ ¬ (h.after family early).Refers ref := by
  constructor
  · intro hgone
    exact ⟨calls, List.prefix_refl _,
      (engine?_eq_none_iff (counted_after family hcount calls) ref).mp hgone⟩
  · rintro ⟨early, ⟨rest, rfl⟩, hnone⟩
    -- What is gone once is gone in all that follows.
    have hearly : (h.after family early).registry.pool.Gone ref :=
      (gone_iff (counted_after family hcount early) ref).mpr
        ⟨Nat.lt_of_lt_of_le hmade (succeeds_after family h early).created_le, hnone⟩
    rw [after_append]
    exact ((succeeds_after family _ rest).gone ref hearly).2

/-- One call destroys an instance at most once. -/
theorem count_lost {h later : Holder E} (ref : Nat) :
    (lost h later).count ref
      = if later.registry.pool.Gone ref ∧ ¬ h.registry.pool.Gone ref then 1 else 0 := by
  have hnodup : (lost h later).Nodup := List.nodup_range.filter _
  rw [hnodup.count]
  congr 1
  unfold lost
  rw [List.mem_filter, List.mem_range, decide_eq_true_iff, eq_iff_iff]
  exact ⟨And.right, fun hlost => ⟨hlost.1.1, hlost⟩⟩

/-- Over a run, an instance is destroyed once if it is gone in the end and was not gone
before, and otherwise not at all. -/
theorem count_destructions (h : Holder E) (calls : List (HolderCall F)) (ref : Nat) :
    (h.destructions family calls).count ref
      = if (h.after family calls).registry.pool.Gone ref ∧ ¬ h.registry.pool.Gone ref
        then 1 else 0 := by
  induction calls generalizing h with
  | nil => exact (if_neg fun hboth => hboth.2 hboth.1).symm
  | cons call calls ih =>
      have hfirst := (succeeds_of_moves (moves_step family h call)).gone ref
      have hrest := (succeeds_after family (h.step family call).2.1 calls).gone ref
      rw [destructions, List.count_append, count_lost, ih, after_cons]
      -- Once it is gone it stays so, and only one of the two parts can have destroyed it.
      by_cases hbefore : h.registry.pool.Gone ref
      · simp [hbefore, hfirst hbefore]
      · by_cases hmiddle : (h.step family call).2.1.registry.pool.Gone ref
        · simp [hbefore, hmiddle, hrest hmiddle]
        · simp [hbefore, hmiddle]

/-! ### Calls that make an instance -/

/-- A call that is not answered with a handle made no instance. -/
theorem makes_eq_false {reply : HolderReply} (hreply : ∀ handle, reply ≠ .handle handle)
    (call : HolderCall F) : makes (call, reply) = false := by
  cases reply with
  | handle handle => exact absurd rfl (hreply handle)
  | _ => cases call <;> rfl

/-- A call that is no request for an instance makes none. -/
theorem created_step_of_other (h : Holder E) {call : HolderCall F}
    (hcreate : ∀ factory settings model, call ≠ .create factory settings model)
    (hinsert : ∀ factory model, call ≠ .insert factory model) :
    (h.step family call).2.1.registry.pool.created = h.registry.pool.created := by
  cases call with
  | create factory settings model => exact absurd rfl (hcreate factory settings model)
  | insert factory model => exact absurd rfl (hinsert factory model)
  | classify handle frame =>
      simp only [step, Registry.classify]
      cases h.registry.find handle with
      | none => rfl
      | some found => exact Pool.created_update ..
  | release handle => exact Registry.created_release h.registry handle
  | contains handle => rfl
  | acquire handle =>
      simp only [step, Registry.acquire]
      cases h.registry.ref? handle with
      | none => rfl
      | some ref => exact Pool.created_share ..
  | insertKept number =>
      simp only [step]
      cases h.kept? number with
      | none => rfl
      | some ref => exact (Registry.created_enter _ ref).trans (Pool.created_share ..)
  | classifyKept number frame =>
      simp only [step]
      cases h.kept? number with
      | none => rfl
      | some ref =>
          simp only
          cases h.registry.pool.engine? ref with
          | none => rfl
          | some engine => exact Pool.created_update ..
  | drop number =>
      simp only [step]
      cases h.kept? number with
      | none => rfl
      | some ref => exact Pool.created_letGo ..

/-- One call makes one instance, if it asks for one and gets it, and no other call makes
any. -/
theorem created_step (h : Holder E) (call : HolderCall F) :
    (h.step family call).2.1.registry.pool.created
      = h.registry.pool.created + if makes (call, (h.step family call).1) then 1 else 0 := by
  cases call with
  | create factory settings model =>
      rcases step_create_cases family h factory settings model with
        ⟨engine, _, -, hreply, hstep⟩ | ⟨hreply, hstep⟩
      · rw [hstep, hreply]
        exact Registry.created_insert h.registry engine
      · rw [makes_eq_false hreply, hstep]
        rfl
  | insert factory model =>
      rcases step_insert_cases family h factory model with
        ⟨engine, hreply, hstep⟩ | ⟨hreply, hstep⟩
      · rw [hstep, hreply]
        exact Registry.created_insert h.registry engine
      · rw [makes_eq_false hreply, hstep]
        rfl
  | _ => exact created_step_of_other family h nofun nofun

/-- The instances that there ever were are those that calls asked for and got. -/
theorem created_after (h : Holder E) (calls : List (HolderCall F)) :
    (h.after family calls).registry.pool.created
      = h.registry.pool.created + (h.trace family calls).countP makes := by
  induction calls generalizing h with
  | nil => rfl
  | cons call calls ih =>
      rw [after_cons, ih, created_step, trace, List.countP_cons]
      omega

/-! ### Kept references -/

/-- A reference is kept until it is dropped. -/
theorem kept?_step {h : Holder E} {number ref : Nat} (hkept : h.kept? number = some ref)
    {call : HolderCall F} (hcall : call ≠ .drop number) :
    (h.step family call).2.1.kept? number = some ref := by
  rw [kept?_eq_some_iff] at hkept ⊢
  have hlt := (List.getElem?_eq_some_iff.mp hkept).1
  cases call with
  | create factory settings model => exact hkept
  | insert factory model =>
      rcases step_insert_cases family h factory model with ⟨engine, -, hstep⟩ | ⟨-, hstep⟩ <;>
      · rw [hstep]
        exact hkept
  | classify handle frame => exact hkept
  | release handle => exact hkept
  | contains handle => exact hkept
  | acquire handle =>
      simp only [step]
      rcases h.registry.acquire handle with ⟨_ | ref', registry, events⟩
      · exact hkept
      · exact (List.getElem?_append_left hlt).trans hkept
  | insertKept other =>
      simp only [step]
      cases h.kept? other <;> exact hkept
  | classifyKept other frame =>
      simp only [step]
      cases h.kept? other with
      | none => exact hkept
      | some ref' =>
          simp only
          cases h.registry.pool.engine? ref' <;> exact hkept
  | drop other =>
      simp only [step]
      cases h.kept? other with
      | none => exact hkept
      | some ref' =>
          refine (List.getElem?_set_ne ?_).trans hkept
          rintro rfl
          exact hcall rfl

/-- A reference is kept over all calls that do not drop it. -/
theorem kept?_after {h : Holder E} {number ref : Nat} (hkept : h.kept? number = some ref)
    {calls : List (HolderCall F)} (hcalls : .drop number ∉ calls) :
    (h.after family calls).kept? number = some ref := by
  induction calls generalizing h with
  | nil => exact hkept
  | cons call calls ih =>
      rw [List.mem_cons, not_or] at hcalls
      exact ih (kept?_step family hkept (Ne.symm hcalls.1)) hcalls.2

/-- The instance of a kept reference is there and answers for itself. -/
theorem step_classifyKept {h : Holder E} (hcount : h.Counted) {number ref : Nat}
    (hkept : h.kept? number = some ref) :
    ∃ engine, h.registry.pool.engine? ref = some engine
      ∧ ∀ frame, (h.step family (.classifyKept number frame)).1
        = engineReply (fun answer => .records answer.records) (family.classify engine frame).1 := by
  have hthere : h.registry.pool.engine? ref ≠ none := fun hnone =>
    (engine?_eq_none_iff hcount ref).mp hnone (.inr ⟨number, hkept⟩)
  obtain ⟨engine, hengine⟩ := Option.ne_none_iff_exists'.mp hthere
  refine ⟨engine, hengine, fun frame => ?_⟩
  simp only [step, hkept, hengine]

/-- A reference to the instance behind a live handle is kept under the next number. -/
theorem step_acquire {h : Holder E} {handle : UInt64} {ref : Nat}
    (href : h.registry.ref? handle = some ref) :
    (h.step family (.acquire handle)).1 = .kept h.kept.length
      ∧ (h.step family (.acquire handle)).2.1.kept? h.kept.length = some ref := by
  simp only [step, Registry.acquire, href, kept?_eq_some_iff]
  exact ⟨trivial, List.getElem?_concat_length ..⟩

/-! ### The life of an instance -/

/-- A new instance is found under its handle. -/
theorem find_insert {h : Holder E} (hcount : h.Counted) (engine : E) :
    (h.registry.insert engine).2.find h.registry.next = some (h.registry.pool.created, engine) := by
  -- The new place has no owner yet, so no entry can lead to it.
  have hfresh : h.registry.ref? h.registry.next ≠ some h.registry.pool.created := fun href => by
    have hpos := hcount.owners_pos href
    rw [Pool.owners_created] at hpos
    cases hpos
  rw [Registry.find_eq_some_iff, Registry.ref?_insert, if_pos rfl,
    Registry.engine?_insert _ _ hfresh, if_pos rfl]
  exact ⟨rfl, rfl⟩

/-- No instance is destroyed twice, and those that were destroyed are those that nothing
refers to any more. -/
theorem destructions_empty (calls : List (HolderCall F)) :
    (({} : Holder E).destructions family calls).Nodup
      ∧ ∀ ref, ref ∈ ({} : Holder E).destructions family calls
        ↔ ref < (({} : Holder E).after family calls).registry.pool.created
          ∧ ¬ (({} : Holder E).after family calls).Refers ref := by
  have hnever (ref : Nat) : ¬ ({} : Holder E).registry.pool.Gone ref := fun hgone =>
    Nat.not_lt_zero ref hgone.1
  constructor
  · rw [List.nodup_iff_count_le_one]
    intro ref
    rw [count_destructions]
    split <;> omega
  · intro ref
    rw [← gone_iff (counted_after family counted_empty calls), ← List.count_pos_iff,
      count_destructions]
    split
    · next hgone => exact ⟨fun _ => hgone.1, fun _ => Nat.one_pos⟩
    · next hthere => exact ⟨nofun, fun hgone => absurd ⟨hgone, hnever ref⟩ hthere⟩

/-- Take any calls on a holder that starts with nothing. The owners of each instance are
the entries and the kept references that lead to it. There were as many instances as
calls that asked for one and got it; each of them was destroyed or is referred to, none
was destroyed twice, and those that were destroyed are those that nothing refers to.

An instance that is made now is the one that its handle finds, and whatever happens
later, it is gone exactly from the first call on after which no handle and no kept
reference leads to it. A create without an instance and the release of a handle that is
not live change nothing. A reference that is kept now leads to its instance until it is
dropped, whatever becomes of the handle, and the instance answers for itself. -/
theorem instance_destroyed_once (calls : List (HolderCall F)) :
    let h := ({} : Holder E).after family calls
    (∀ ref, h.registry.pool.owners ref = h.registry.references ref + h.keeps ref)
      ∧ h.registry.pool.created = (({} : Holder E).trace family calls).countP makes
      ∧ h.registry.pool.created = h.registry.pool.destroyed + {ref | h.Refers ref}.ncard
      ∧ (({} : Holder E).destructions family calls).Nodup
      ∧ (∀ ref, ref ∈ ({} : Holder E).destructions family calls
          ↔ ref < h.registry.pool.created ∧ ¬ h.Refers ref)
      ∧ (∀ factory settings model handle,
          (h.step family (.create factory settings model)).1 = .handle handle →
          ∃ engine factory',
            family.create factory (settings.engineConfig model) = (.ok engine, factory')
            ∧ let ref := h.registry.pool.created
              let new := (h.step family (.create factory settings model)).2.1
              new.registry.find handle = some (ref, engine)
                ∧ ∀ later, (new.after family later).registry.pool.engine? ref = none
                  ↔ ∃ early, early <+: later ∧ ¬ (new.after family early).Refers ref)
      ∧ (∀ factory settings model,
          (∀ handle, (h.step family (.create factory settings model)).1 ≠ .handle handle) →
          (h.step family (.create factory settings model)).2.1 = h)
      ∧ (∀ handle, h.registry.contains handle = false →
          (h.step family (.release handle)).2.1 = h)
      ∧ ∀ handle ref, h.registry.ref? handle = some ref →
          (h.step family (.acquire handle)).1 = .kept h.kept.length
            ∧ ∀ later, .drop h.kept.length ∉ later →
              let t := (h.step family (.acquire handle)).2.1.after family later
              ∃ engine, t.registry.pool.engine? ref = some engine
                ∧ ∀ frame, (t.step family (.classifyKept h.kept.length frame)).1
                  = engineReply (fun answer => .records answer.records)
                      (family.classify engine frame).1 := by
  intro h
  have hcount : h.Counted := counted_after family counted_empty calls
  obtain ⟨hnodup, hdestroyed⟩ := destructions_empty (E := E) family calls
  refine ⟨hcount.owners_eq, ?_, created_eq hcount, hnodup, hdestroyed, ?_, ?_, ?_, ?_⟩
  · have hmade := created_after family ({} : Holder E) calls
    exact hmade.trans (Nat.zero_add _)
  · intro factory settings model handle hreply
    -- The new instance is referred to by its handle, and from there on the run lemma holds.
    have hcount' := counted_of_moves hcount
      (moves_step family h (.create factory settings model))
    rcases step_create_cases family h factory settings model with
      ⟨engine, factory', hcreate, hnext, hstep⟩ | ⟨hrefused, -⟩
    · rw [hnext] at hreply
      cases hreply
      refine ⟨engine, factory', hcreate, ?_, gone_after_iff family hcount' ?_⟩
      · rw [hstep]
        exact find_insert hcount engine
      · rw [hstep]
        show _ < (h.registry.insert engine).2.pool.created
        rw [Registry.created_insert]
        exact Nat.lt_succ_self _
    · exact absurd hreply (hrefused handle)
  · intro factory settings model hrefused
    rcases step_create_cases family h factory settings model with
      ⟨_, _, -, hreply, -⟩ | ⟨-, hstep⟩
    · exact absurd hreply (hrefused _)
    · exact hstep
  · intro handle hdead
    have hnone : h.registry.ref? handle = none :=
      Option.isNone_iff_eq_none.mp (Option.isSome_eq_false_iff.mp hdead)
    simp only [step, Registry.release, hnone]
  · intro handle ref href
    obtain ⟨hreply, hkept⟩ := step_acquire family href
    refine ⟨hreply, fun later hlater => ?_⟩
    have hcount' := counted_of_moves hcount (moves_step family h (.acquire handle))
    exact step_classifyKept family (counted_after family hcount' later)
      (kept?_after family hkept hlater)

/-- One instance is kept across the release of its handle, a second one is made, and a
third is refused. -/
theorem instance_destroyed_once_kept :
    let h := ({} : Holder SampleEngine).after sampleFamily [.create .brightness {} {}]
    let kept := (h.step sampleFamily (.acquire 1)).2.1
    let two := (h.step sampleFamily (.create .echo {} {})).2.1
    ((h.step sampleFamily (.create .echo {} {})).1 = .handle 2
        ∧ (∀ handle, (h.step sampleFamily (.create .brightness {} { fd := -1 })).1 ≠ .handle handle)
        ∧ h.registry.contains 2 = false ∧ h.registry.ref? 1 = some 0
        ∧ HolderCall.drop 0 ∉ [HolderCall.release (F := SampleFactory) 1])
      ∧ (two.after sampleFamily [.release 2]).registry.pool.engine? 1 = none
      ∧ (h.step sampleFamily (.create .brightness {} { fd := -1 })).2.1 = h
      ∧ (h.step sampleFamily (.release 2)).2.1 = h
      ∧ ((kept.after sampleFamily [.release 1]).registry.pool.engine? 0).isSome := by
  intro h kept two
  obtain ⟨-, -, -, -, -, hlife, hrefused, hunknown, hkept⟩ :=
    instance_destroyed_once sampleFamily [.create SampleFactory.brightness {} {}]
  have hhandle : (h.step sampleFamily (.create .echo {} {})).1 = .handle 2 := rfl
  have hno : ∀ handle,
      (h.step sampleFamily (.create .brightness {} { fd := -1 })).1 ≠ .handle handle := nofun
  have hdead : h.registry.contains 2 = false := rfl
  have href : h.registry.ref? 1 = some 0 := rfl
  have hdrop : HolderCall.drop 0 ∉ [HolderCall.release (F := SampleFactory) 1] := by simp
  refine ⟨⟨hhandle, hno, hdead, href, hdrop⟩, ?_, hrefused _ _ _ hno, hunknown 2 hdead, ?_⟩
  · obtain ⟨_, _, -, -, hgone⟩ := hlife _ _ _ _ hhandle
    refine (hgone [.release 2]).mpr ⟨[.release 2], List.prefix_refl _, ?_⟩
    -- No entry leads to the second instance any more, and nothing was kept.
    rintro (⟨handle, hentry⟩ | ⟨number, hnumber⟩)
    · have hmem := Registry.mem_entries_of_ref? hentry
      have hentries : (two.after sampleFamily [.release 2]).registry.entries = [(1, 0)] := rfl
      change (handle, 1) ∈ (two.after sampleFamily [.release 2]).registry.entries at hmem
      rw [hentries] at hmem
      simp at hmem
    · exact absurd (mem_kept_of_kept? hnumber) List.not_mem_nil
  · obtain ⟨engine, hengine, -⟩ := (hkept 1 0 href).2 [.release 1] hdrop
    exact Option.isSome_iff_exists.mpr ⟨engine, hengine⟩

end ClassifierBridge.Holder
