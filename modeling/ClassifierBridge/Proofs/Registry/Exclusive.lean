import ClassifierBridge.Registry.Basic
import Mathlib.Data.List.Nodup

/-!
# `ClassifierBridge.Proofs.Registry.Exclusive`: one instance behind each handle

A registry that shares nothing keeps a separate instance for every live handle.
`Registry.Exclusive` says so, and `Registry.instance?` is the view that it makes
exact: what a host can reach through a handle. In this view every operation
changes one place and no other:

* `instance?_insert`: the new handle finds the new instance.
* `instance?_update`: a call on an instance leaves the instances of other handles
  alone, which is the reason why two hosts do not get in each other's way.
* `instance?_release`: the released handle finds nothing.

The three lemmas with `exclusive_` in front say that `Exclusive` is kept.
-/

set_option autoImplicit false

namespace ClassifierBridge

/-! ### The pool, seen instance by instance -/

namespace Pool

variable {E : Type}

/-- A new instance is found under its reference. -/
theorem engine?_adopt (pool : Pool E) (engine : E) (ref : Nat) :
    (pool.adopt engine).2.engine? ref
      = if ref = pool.created then some engine else pool.engine? ref := by
  unfold engine?
  rw [tenant?_adopt]
  split <;> rfl

/-- A reference behind which there is an instance was given out before. -/
theorem lt_created_of_engine? {pool : Pool E} {ref : Nat} {engine : E}
    (h : pool.engine? ref = some engine) : ref < pool.created := by
  unfold engine? at h
  obtain ⟨tenant, htenant, -⟩ := Option.map_eq_some_iff.mp h
  exact lt_created_of_tenant? htenant

/-- An update is seen by its own reference only. -/
theorem engine?_update {pool : Pool E} {ref : Nat} {old : E} (h : pool.engine? ref = some old)
    (engine : E) (other : Nat) :
    (pool.update ref engine).engine? other
      = if ref = other then some engine else pool.engine? other := by
  unfold engine? at h ⊢
  obtain ⟨tenant, htenant, -⟩ := Option.map_eq_some_iff.mp h
  unfold update
  rw [htenant]
  simp only
  rw [tenant?_put _ _ (lt_created_of_tenant? htenant)]
  split <;> rfl

/-- Giving up a reference does not touch what is behind another one. -/
theorem engine?_letGo_of_ne (pool : Pool E) {ref other : Nat} (h : ref ≠ other) :
    (pool.letGo ref).engine? other = pool.engine? other := by
  unfold letGo engine?
  cases htenant : pool.tenant? ref with
  | none => rfl
  | some tenant =>
      simp only
      have hput (place : Option (Tenant E)) :
          (pool.put ref place).tenant? other = pool.tenant? other := by
        rw [tenant?_put _ _ (lt_created_of_tenant? htenant), if_neg h]
      split <;> rw [hput]

end Pool

namespace Registry

variable {E : Type}

/-! ### What a handle reaches -/

/-- The instance behind a handle. -/
def instance? (r : Registry E) (handle : UInt64) : Option E := (r.find handle).map Prod.snd

/-- Every live handle has an instance, and no two have the same one. -/
structure Exclusive (r : Registry E) : Prop where
  handles_nodup : r.handles.Nodup
  refs_nodup : (r.entries.map Prod.snd).Nodup
  occupied : ∀ entry ∈ r.entries, ∃ engine, r.pool.engine? entry.2 = some engine

/-- The instance behind a handle is found in two steps: the entry, then its place in
the pool. -/
theorem instance?_eq_bind (r : Registry E) (handle : UInt64) :
    r.instance? handle = (r.ref? handle).bind r.pool.engine? := by
  unfold instance? find
  cases r.ref? handle with
  | none => rfl
  | some ref =>
      show Option.map Prod.snd ((r.pool.engine? ref).bind fun engine => some (ref, engine)) = _
      rw [Option.bind_some]
      cases r.pool.engine? ref <;> rfl

/-- The reference that `find` returns leads to the instance that it returns. -/
theorem find_eq_some_iff {r : Registry E} {handle : UInt64} {ref : Nat} {engine : E} :
    r.find handle = some (ref, engine)
      ↔ r.ref? handle = some ref ∧ r.pool.engine? ref = some engine := by
  unfold find
  cases hr : r.ref? handle with
  | none => simp
  | some ref' =>
      simp only [Option.bind_eq_bind, Option.bind_some, Option.pure_def, Option.some.injEq]
      constructor
      · intro h
        obtain ⟨engine', he, hpair⟩ := Option.bind_eq_some_iff.mp h
        cases hpair
        exact ⟨rfl, he⟩
      · rintro ⟨rfl, he⟩
        rw [he]
        rfl

/-- A look-up answers with an entry. -/
theorem mem_entries_of_ref? {r : Registry E} {handle : UInt64} {ref : Nat}
    (h : r.ref? handle = some ref) : (handle, ref) ∈ r.entries := by
  unfold ref? at h
  obtain ⟨before, after, hsplit, -⟩ := List.lookup_eq_some_iff.mp h
  rw [hsplit]
  exact List.mem_append_right _ List.mem_cons_self

namespace Exclusive

variable {r : Registry E}

/-- A registry without entries shares nothing. -/
theorem of_entries_eq_nil (h : r.entries = []) : r.Exclusive where
  handles_nodup := by simp [handles, h]
  refs_nodup := by simp [h]
  occupied := by simp [h]

/-- Handles with the same reference are the same. -/
theorem handle_inj (hr : r.Exclusive) {handle other : UInt64} {ref : Nat}
    (h : r.ref? handle = some ref) (ho : r.ref? other = some ref) : handle = other :=
  congrArg Prod.fst (List.inj_on_of_nodup_map hr.refs_nodup
    (mem_entries_of_ref? h) (mem_entries_of_ref? ho) rfl)

/-- A live handle has an instance. -/
theorem exists_engine (hr : r.Exclusive) {handle : UInt64} {ref : Nat}
    (h : r.ref? handle = some ref) : ∃ engine, r.pool.engine? ref = some engine :=
  hr.occupied _ (mem_entries_of_ref? h)

/-- A handle is live when there is an instance behind it. -/
theorem isSome_instance? (hr : r.Exclusive) (handle : UInt64) :
    (r.instance? handle).isSome = r.contains handle := by
  rw [instance?_eq_bind, contains]
  cases h : r.ref? handle with
  | none => rfl
  | some ref =>
      obtain ⟨engine, he⟩ := hr.exists_engine h
      rw [Option.bind_some, he]
      rfl

end Exclusive

/-! ### The operations in this view -/

/-- What is left without a handle does not have it. -/
theorem not_mem_handles_without (entries : List (UInt64 × Nat)) (handle : UInt64) :
    handle ∉ (without entries handle).map Prod.fst := by
  intro h
  obtain ⟨entry, hentry, rfl⟩ := List.mem_map.mp h
  have hkept := (List.mem_filter.mp hentry).2
  rw [bne_self_eq_false] at hkept
  cases hkept

/-- A new entry disturbs no instance but the one that its handle had before. -/
theorem engine?_enter (r : Registry E) (ref other : Nat)
    (h : r.ref? r.next ≠ some other) :
    (r.enter ref).2.pool.engine? other = r.pool.engine? other := by
  unfold enter
  simp only
  split
  · next replaced hreplaced =>
      exact r.pool.engine?_letGo_of_ne fun hsame => h (hsame ▸ hreplaced)
  · rfl

/-- An insertion adds one entry, and the entry that had the handle before is removed. -/
theorem entries_insert (r : Registry E) (engine : E) :
    (r.insert engine).2.entries = without r.entries r.next ++ [(r.next, r.pool.created)] := rfl

/-- After an insertion, the next handle leads to the new place of the pool. -/
theorem ref?_insert (r : Registry E) (engine : E) (handle : UInt64) :
    (r.insert engine).2.ref? handle
      = if handle = r.next then some r.pool.created else r.ref? handle :=
  ref?_enter { r with pool := (r.pool.adopt engine).2 } r.pool.created handle

/-- After an insertion, the instance behind a reference is the new one or the one
from before; only the reference that lost its handle may have lost it. -/
theorem engine?_insert (r : Registry E) (engine : E) {ref : Nat}
    (h : r.ref? r.next ≠ some ref) :
    (r.insert engine).2.pool.engine? ref
      = if ref = r.pool.created then some engine else r.pool.engine? ref :=
  (engine?_enter { r with pool := (r.pool.adopt engine).2 } r.pool.created ref h).trans
    (r.pool.engine?_adopt engine ref)

namespace Exclusive

variable {r : Registry E}

/-- A reference in use was given out before. -/
theorem lt_created (hr : r.Exclusive) {entry : UInt64 × Nat} (h : entry ∈ r.entries) :
    entry.2 < r.pool.created := by
  obtain ⟨engine, he⟩ := hr.occupied entry h
  exact Pool.lt_created_of_engine? he

/-- The new reference had no handle before. -/
theorem ref?_ne_created (hr : r.Exclusive) (handle : UInt64) :
    r.ref? handle ≠ some r.pool.created := fun h =>
  absurd (hr.lt_created (mem_entries_of_ref? h)) (Nat.lt_irrefl _)

/-- The new handle finds the new instance; the others find what they found
before. -/
theorem instance?_insert (hr : r.Exclusive) (engine : E) (handle : UInt64) :
    (r.insert engine).2.instance? handle
      = if handle = r.next then some engine else r.instance? handle := by
  rw [instance?_eq_bind, instance?_eq_bind, ref?_insert]
  -- The new handle leads to the new place; another one to a place that was given out before.
  by_cases h : handle = r.next
  · rw [if_pos h, if_pos h, Option.bind_some,
      r.engine?_insert engine (hr.ref?_ne_created r.next), if_pos rfl]
  · rw [if_neg h, if_neg h]
    cases href : r.ref? handle with
    | none => rfl
    | some ref =>
        have hother : r.ref? r.next ≠ some ref := fun hn => h (hr.handle_inj href hn)
        have hold := hr.lt_created (mem_entries_of_ref? href)
        rw [Option.bind_some, Option.bind_some, r.engine?_insert engine hother,
          if_neg (Nat.ne_of_lt hold)]

/-- A new instance gets a place and a handle of its own. -/
theorem exclusive_insert (hr : r.Exclusive) (engine : E) : (r.insert engine).2.Exclusive where
  handles_nodup := by
    unfold handles
    rw [entries_insert, List.map_append, List.nodup_append']
    refine ⟨hr.handles_nodup.sublist (List.filter_sublist.map _), by simp, ?_⟩
    exact List.disjoint_singleton.mpr (not_mem_handles_without r.entries r.next)
  refs_nodup := by
    rw [entries_insert, List.map_append, List.nodup_append']
    refine ⟨hr.refs_nodup.sublist (List.filter_sublist.map _), by simp, ?_⟩
    -- The new place is behind all that were given out, so no entry leads to it yet.
    refine List.disjoint_singleton.mpr fun h => ?_
    obtain ⟨entry, hentry, hsame⟩ := List.mem_map.mp h
    have := hr.lt_created (List.mem_of_mem_filter hentry)
    simp only at hsame
    omega
  occupied entry hentry := by
    rw [entries_insert, List.mem_append, List.mem_singleton] at hentry
    rcases hentry with hkept | rfl
    · obtain ⟨hold, hkey⟩ := List.mem_filter.mp hkept
      obtain ⟨old, hocc⟩ := hr.occupied entry hold
      -- The entry stayed, so its key is not the next handle.
      have hother : r.ref? r.next ≠ some entry.2 := by
        intro hn
        have hsame : (r.next, entry.2) = entry :=
          List.inj_on_of_nodup_map hr.refs_nodup (mem_entries_of_ref? hn) hold rfl
        rw [← hsame] at hkey
        simp at hkey
      refine ⟨old, ?_⟩
      rw [r.engine?_insert engine hother, if_neg (Nat.ne_of_lt (hr.lt_created hold)), hocc]
    · exact ⟨engine, by rw [r.engine?_insert engine (hr.ref?_ne_created r.next), if_pos rfl]⟩

/-- A call on the instance behind a handle is seen through this handle only. -/
theorem instance?_update (hr : r.Exclusive) {handle : UInt64} {ref : Nat} {old : E}
    (h : r.find handle = some (ref, old)) (engine : E) (other : UInt64) :
    { r with pool := r.pool.update ref engine }.instance? other
      = if other = handle then some engine else r.instance? other := by
  obtain ⟨href, hold⟩ := find_eq_some_iff.mp h
  rw [instance?_eq_bind, instance?_eq_bind]
  show (r.ref? other).bind (r.pool.update ref engine).engine? = _
  by_cases ho : other = handle
  · rw [if_pos ho, ho, href, Option.bind_some, Pool.engine?_update hold, if_pos rfl]
  · rw [if_neg ho]
    cases href' : r.ref? other with
    | none => rfl
    | some ref' =>
        -- Two handles with one reference would be the same handle.
        have hne : ref ≠ ref' := fun hsame => ho (hr.handle_inj href' (hsame ▸ href))
        rw [Option.bind_some, Option.bind_some, Pool.engine?_update hold, if_neg hne]

/-- A call changes an instance and not who has it. -/
theorem exclusive_update (hr : r.Exclusive) {handle : UInt64} {ref : Nat} {old : E}
    (h : r.find handle = some (ref, old)) (engine : E) :
    { r with pool := r.pool.update ref engine }.Exclusive where
  handles_nodup := hr.handles_nodup
  refs_nodup := hr.refs_nodup
  occupied entry hentry := by
    obtain ⟨-, hold⟩ := find_eq_some_iff.mp h
    show ∃ e, (r.pool.update ref engine).engine? entry.2 = some e
    rw [Pool.engine?_update hold]
    split
    · exact ⟨engine, rfl⟩
    · exact hr.occupied entry hentry

/-- A released handle finds nothing; the others find what they found before. -/
theorem instance?_release (hr : r.Exclusive) (handle other : UInt64) :
    (r.release handle).2.1.instance? other
      = if other = handle then none else r.instance? other := by
  rw [instance?_eq_bind, instance?_eq_bind, ref?_release]
  by_cases ho : other = handle
  · rw [if_pos ho, if_pos ho]
    rfl
  · rw [if_neg ho, if_neg ho]
    cases href' : r.ref? other with
    | none => rfl
    | some ref' =>
        rw [Option.bind_some, Option.bind_some]
        unfold release
        split
        · rfl
        · next ref href =>
            exact r.pool.engine?_letGo_of_ne fun hsame => ho (hr.handle_inj href' (hsame ▸ href))

/-- Where one handle is released, the others keep their instances. -/
theorem exclusive_release (hr : r.Exclusive) (handle : UInt64) :
    (r.release handle).2.1.Exclusive := by
  unfold release
  split
  · exact hr
  · next ref href =>
      refine ⟨hr.handles_nodup.sublist (List.filter_sublist.map _),
        hr.refs_nodup.sublist (List.filter_sublist.map _), ?_⟩
      intro entry hentry
      obtain ⟨hold, hkey⟩ := List.mem_filter.mp hentry
      obtain ⟨engine, hocc⟩ := hr.occupied entry hold
      refine ⟨engine, ?_⟩
      show (r.pool.letGo ref).engine? entry.2 = some engine
      rw [r.pool.engine?_letGo_of_ne ?_, hocc]
      -- An entry that stayed has another key, and so leads to another place.
      intro hrefs
      have hsame : (handle, ref) = entry :=
        List.inj_on_of_nodup_map hr.refs_nodup (mem_entries_of_ref? href) hold hrefs
      rw [← hsame] at hkey
      simp at hkey

end Exclusive

end Registry

end ClassifierBridge
