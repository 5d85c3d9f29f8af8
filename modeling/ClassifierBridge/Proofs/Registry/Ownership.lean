import ClassifierBridge.Proofs.Registry.Exclusive

/-!
# `ClassifierBridge.Proofs.Registry.Ownership`: every owner is counted once

An instance is owned by the entries of the registry that lead to it and by the
references that were handed out. The pool keeps a number of owners for each
instance, and nothing in the code recounts them. `Registry.Counted` says that the
number is right: `outside` counts the references outside the registry, and the owners
of an instance are its entries and the references outside, no more and no fewer.

Operations are read as moves of ownership. A new instance belongs to the caller
first (`counted_adopt`), an entry takes the caller's reference over (`counted_push`),
a removed entry leaves one behind (`counted_without`), and giving up a reference takes
it out of the count (`counted_letGo`). What the registry does is put together from
these four: `counted_enter`, `counted_insert`, `counted_insertShared`,
`counted_release`.

`Pool.Succeeds` is the other half of the story: an instance that was destroyed does not
come back.
-/

set_option autoImplicit false

namespace ClassifierBridge

/-! ### The number of owners in the pool -/

namespace Pool

variable {E : Type}

/-- No instance is there without an owner. -/
def NoneIdle (pool : Pool E) : Prop :=
  ∀ ref tenant, pool.tenant? ref = some tenant → 0 < tenant.owners

/-- The owners of an instance are those that its place has written down. -/
theorem owners_of_tenant? {pool : Pool E} {ref : Nat} {tenant : Tenant E}
    (h : pool.tenant? ref = some tenant) : pool.owners ref = tenant.owners := by
  rw [owners, h]
  rfl

/-- Where there is no tenant, there are no owners. -/
theorem owners_of_tenant?_eq_none {pool : Pool E} {ref : Nat} (h : pool.tenant? ref = none) :
    pool.owners ref = 0 := by
  rw [owners, h]
  rfl

/-- The owners of an instance tell whether it is there. -/
theorem NoneIdle.engine?_eq_none_iff {pool : Pool E} (h : pool.NoneIdle) (ref : Nat) :
    pool.engine? ref = none ↔ pool.owners ref = 0 := by
  unfold engine?
  cases htenant : pool.tenant? ref with
  | none => simp [owners_of_tenant?_eq_none htenant]
  | some tenant =>
      have := h ref tenant htenant
      simp only [Option.map_some, reduceCtorEq, owners_of_tenant? htenant, false_iff]
      omega

/-- An instance with an owner has a tenant. -/
theorem exists_tenant_of_owners_pos {pool : Pool E} {ref : Nat} (h : 0 < pool.owners ref) :
    ∃ tenant, pool.tenant? ref = some tenant := by
  cases htenant : pool.tenant? ref with
  | none =>
      rw [owners_of_tenant?_eq_none htenant] at h
      cases h
  | some tenant => exact ⟨tenant, rfl⟩

/-- A reference that was not given out yet has no owners. -/
theorem owners_created (pool : Pool E) : pool.owners pool.created = 0 := by
  refine owners_of_tenant?_eq_none ?_
  unfold tenant? created
  rw [List.getElem?_eq_none (Nat.le_refl _)]
  rfl

/-- A change of one place is seen by its own reference only. -/
theorem owners_put {pool : Pool E} {ref : Nat} (place : Option (Tenant E)) (other : Nat)
    (h : ref < pool.created) :
    (pool.put ref place).owners other
      = if ref = other then (place.map Tenant.owners).getD 0 else pool.owners other := by
  unfold owners
  rw [tenant?_put _ _ h]
  split <;> rfl

/-- A change of one place leaves no instance idle if what is put there has an owner. -/
theorem noneIdle_put {pool : Pool E} (hpool : pool.NoneIdle) {ref : Nat}
    {place : Option (Tenant E)} (h : ref < pool.created)
    (hplace : ∀ tenant, place = some tenant → 0 < tenant.owners) :
    (pool.put ref place).NoneIdle := by
  intro other tenant htenant
  rw [tenant?_put _ _ h] at htenant
  split at htenant
  · exact hplace tenant htenant
  · exact hpool other tenant htenant

/-- A new instance has one owner. -/
theorem owners_adopt (pool : Pool E) (engine : E) (ref : Nat) :
    (pool.adopt engine).2.owners ref = pool.owners ref + if ref = pool.created then 1 else 0 := by
  by_cases h : ref = pool.created
  · rw [if_pos h, h, owners_created, owners, tenant?_adopt, if_pos rfl]
    rfl
  · rw [if_neg h, owners, tenant?_adopt, if_neg h]
    rfl

/-- A new instance is not idle, it belongs to its maker. -/
theorem noneIdle_adopt {pool : Pool E} (hpool : pool.NoneIdle) (engine : E) :
    (pool.adopt engine).2.NoneIdle := by
  intro ref tenant htenant
  rw [tenant?_adopt] at htenant
  split at htenant
  · cases htenant
    exact Nat.one_pos
  · exact hpool ref tenant htenant

/-- An instance that has an owner can get one more. -/
theorem owners_share {pool : Pool E} {ref : Nat} (h : 0 < pool.owners ref) (other : Nat) :
    (pool.share ref).owners other = pool.owners other + if other = ref then 1 else 0 := by
  obtain ⟨tenant, htenant⟩ := exists_tenant_of_owners_pos h
  unfold share
  rw [htenant]
  simp only
  rw [owners_put _ _ (lt_created_of_tenant? htenant)]
  by_cases hsame : ref = other
  · subst hsame
    simp [owners_of_tenant? htenant]
  · rw [if_neg hsame, if_neg (Ne.symm hsame), Nat.add_zero]

/-- One more owner makes no instance idle. -/
theorem noneIdle_share {pool : Pool E} (hpool : pool.NoneIdle) (ref : Nat) :
    (pool.share ref).NoneIdle := by
  unfold share
  split
  · next tenant htenant =>
      refine noneIdle_put hpool (lt_created_of_tenant? htenant) fun t ht => ?_
      cases ht
      exact Nat.succ_pos _
  · exact hpool

/-- Giving up a reference takes one owner away. -/
theorem owners_letGo (pool : Pool E) (ref other : Nat) :
    (pool.letGo ref).owners other = pool.owners other - if other = ref then 1 else 0 := by
  unfold letGo
  cases htenant : pool.tenant? ref with
  | none =>
      by_cases hsame : other = ref
      · rw [if_pos hsame, hsame, owners_of_tenant?_eq_none htenant]
      · rw [if_neg hsame, Nat.sub_zero]
  | some tenant =>
      have hinside := lt_created_of_tenant? htenant
      -- The last owner takes the instance away, which leaves no owners either.
      by_cases hlast : tenant.owners ≤ 1
      · simp only [hlast, if_true]
        rw [owners_put _ _ hinside]
        by_cases hsame : ref = other
        · subst hsame
          simp only [if_true, Option.map_none, Option.getD_none, owners_of_tenant? htenant]
          omega
        · rw [if_neg hsame, if_neg (Ne.symm hsame), Nat.sub_zero]
      · simp only [hlast, if_false]
        rw [owners_put _ _ hinside]
        by_cases hsame : ref = other
        · subst hsame
          simp [owners_of_tenant? htenant]
        · rw [if_neg hsame, if_neg (Ne.symm hsame), Nat.sub_zero]

/-- An instance that loses its last owner does not stay idle, it is taken away. -/
theorem noneIdle_letGo {pool : Pool E} (hpool : pool.NoneIdle) (ref : Nat) :
    (pool.letGo ref).NoneIdle := by
  unfold letGo
  split
  · next tenant htenant =>
      have hinside := lt_created_of_tenant? htenant
      split
      · exact noneIdle_put hpool hinside nofun
      · next hmore =>
          refine noneIdle_put hpool hinside fun t ht => ?_
          cases ht
          show 0 < tenant.owners - 1
          omega
  · exact hpool

/-- A call on an instance leaves its owners alone. -/
theorem noneIdle_update {pool : Pool E} (hpool : pool.NoneIdle) (ref : Nat) (engine : E) :
    (pool.update ref engine).NoneIdle := by
  unfold update
  split
  · next tenant htenant =>
      refine noneIdle_put hpool (lt_created_of_tenant? htenant) fun t ht => ?_
      cases ht
      exact hpool ref tenant htenant
  · exact hpool

/-! ### What was destroyed stays destroyed -/

/-- An instance that was made and is not there any more. -/
def Gone (pool : Pool E) (ref : Nat) : Prop := ref < pool.created ∧ pool.engine? ref = none

/-- Whether an instance is gone can be looked up in the pool. -/
instance (pool : Pool E) (ref : Nat) : Decidable (pool.Gone ref) :=
  inferInstanceAs (Decidable (_ ∧ _))

/-- A change of one place makes no new one. -/
theorem created_put (pool : Pool E) (ref : Nat) (place : Option (Tenant E)) :
    (pool.put ref place).created = pool.created := List.length_set ..

/-- A new instance gets a new place. -/
theorem created_adopt (pool : Pool E) (engine : E) :
    (pool.adopt engine).2.created = pool.created + 1 := List.length_append ..

/-- The pool at a later time: no reference was taken back, and no instance that was
gone is there again. -/
structure Succeeds (later earlier : Pool E) : Prop where
  created_le : earlier.created ≤ later.created
  gone : ∀ ref, earlier.Gone ref → later.Gone ref

namespace Succeeds

/-- Nothing was lost when nothing happened. -/
theorem refl (pool : Pool E) : pool.Succeeds pool := ⟨Nat.le_refl _, fun _ h => h⟩

/-- What is gone at one time is gone at every later time. -/
theorem trans {a b c : Pool E} (hab : a.Succeeds b) (hbc : b.Succeeds c) : a.Succeeds c :=
  ⟨Nat.le_trans hbc.created_le hab.created_le, fun ref h => hab.gone ref (hbc.gone ref h)⟩

/-- The place of a tenant may change; all other places stay. -/
theorem of_put {pool : Pool E} {ref : Nat} {tenant : Tenant E}
    (h : pool.tenant? ref = some tenant) (place : Option (Tenant E)) :
    (pool.put ref place).Succeeds pool := by
  refine ⟨Nat.le_of_eq (pool.created_put ref place).symm, fun other ⟨hlt, hgone⟩ => ?_⟩
  refine ⟨Nat.lt_of_lt_of_eq hlt (pool.created_put ref place).symm, ?_⟩
  rw [engine?, Option.map_eq_none_iff] at hgone ⊢
  rw [tenant?_put _ _ (lt_created_of_tenant? h), if_neg, hgone]
  -- The place that changes had a tenant, so it was not gone.
  rintro rfl
  rw [h] at hgone
  cases hgone

/-- A new instance does not stand in the place of an old one. -/
theorem of_adopt (pool : Pool E) (engine : E) : (pool.adopt engine).2.Succeeds pool := by
  have hcreated := pool.created_adopt engine
  refine ⟨by omega, fun ref ⟨hlt, hgone⟩ => ⟨by omega, ?_⟩⟩
  rw [engine?_adopt, if_neg (Nat.ne_of_lt hlt), hgone]

/-- One more owner brings no instance back. -/
theorem of_share (pool : Pool E) (ref : Nat) : (pool.share ref).Succeeds pool := by
  unfold share
  split
  · next htenant => exact of_put htenant _
  · exact refl pool

/-- Giving up a reference brings no instance back. -/
theorem of_letGo (pool : Pool E) (ref : Nat) : (pool.letGo ref).Succeeds pool := by
  unfold letGo
  split
  · next htenant => split <;> exact of_put htenant _
  · exact refl pool

/-- A call on an instance that is gone does not bring it back. -/
theorem of_update (pool : Pool E) (ref : Nat) (engine : E) :
    (pool.update ref engine).Succeeds pool := by
  unfold update
  split
  · next htenant => exact of_put htenant _
  · exact refl pool

end Succeeds

/-- One more owner is no new instance. -/
theorem created_share (pool : Pool E) (ref : Nat) : (pool.share ref).created = pool.created := by
  unfold share
  split
  · exact created_put ..
  · rfl

/-- A place that was given out is never taken back, also when it is emptied. -/
theorem created_letGo (pool : Pool E) (ref : Nat) : (pool.letGo ref).created = pool.created := by
  unfold letGo
  split
  · split <;> exact created_put ..
  · rfl

/-- A call on an instance makes no new one. -/
theorem created_update (pool : Pool E) (ref : Nat) (engine : E) :
    (pool.update ref engine).created = pool.created := by
  unfold update
  split
  · exact created_put ..
  · rfl

end Pool

/-! ### The owners of an instance -/

/-- The references of `outside`, and one more to `ref`. -/
def oneMore (outside : Nat → Nat) (ref : Nat) : Nat → Nat := fun other =>
  outside other + if other = ref then 1 else 0

namespace Registry

variable {E : Type}

/-- The number of entries that lead to an instance. -/
def references (r : Registry E) (ref : Nat) : Nat := (r.entries.map Prod.snd).count ref

/-- Each instance has as many owners as there are references to it: one for every
entry that leads to it, and those outside the registry. -/
structure Counted (r : Registry E) (outside : Nat → Nat) : Prop where
  handles_nodup : r.handles.Nodup
  noneIdle : r.pool.NoneIdle
  owners_eq : ∀ ref, r.pool.owners ref = r.references ref + outside ref

/-- A key that is nowhere can be taken away without effect. -/
theorem without_of_not_mem {entries : List (UInt64 × Nat)} {handle : UInt64}
    (h : handle ∉ entries.map Prod.fst) : without entries handle = entries := by
  refine List.filter_eq_self.mpr fun entry hentry => bne_iff_ne.mpr ?_
  rintro rfl
  exact h (List.mem_map_of_mem hentry)

/-- The entry of a key is one entry. -/
theorem count_without {entries : List (UInt64 × Nat)} (hnodup : (entries.map Prod.fst).Nodup)
    {handle : UInt64} {ref : Nat} (h : entries.lookup handle = some ref) (other : Nat) :
    (entries.map Prod.snd).count other
      = ((without entries handle).map Prod.snd).count other + if other = ref then 1 else 0 := by
  obtain ⟨before, later, rfl, -⟩ := List.lookup_eq_some_iff.mp h
  rw [List.map_append, List.map_cons] at hnodup
  -- On either side of the entry its key does not occur again.
  have hbefore : handle ∉ before.map Prod.fst := fun hmem =>
    List.disjoint_of_nodup_append hnodup hmem List.mem_cons_self
  have hlater : handle ∉ later.map Prod.fst :=
    (List.nodup_cons.mp (List.Nodup.of_append_right hnodup)).1
  have hwithout : without (before ++ (handle, ref) :: later) handle = before ++ later := by
    have hsplit : without (before ++ (handle, ref) :: later) handle
        = without before handle ++ without later handle := by
      simp [without, List.filter_append]
    rw [hsplit, without_of_not_mem hbefore, without_of_not_mem hlater]
  rw [hwithout]
  simp only [List.map_append, List.map_cons, List.count_append, List.count_cons, beq_iff_eq,
    eq_comm (a := ref)]
  omega

/-- An entry with a reference is found under its handle. -/
theorem ref?_eq_some_iff_mem {r : Registry E} (hnodup : r.handles.Nodup) {handle : UInt64}
    {ref : Nat} : r.ref? handle = some ref ↔ (handle, ref) ∈ r.entries := by
  refine ⟨mem_entries_of_ref?, fun hmem => ?_⟩
  have hlive := (contains_iff_mem_handles r handle).mpr (List.mem_map_of_mem hmem)
  obtain ⟨found, hfound⟩ := Option.isSome_iff_exists.mp hlive
  have hsame : (handle, found) = (handle, ref) :=
    List.inj_on_of_nodup_map hnodup (mem_entries_of_ref? hfound) hmem rfl
  rw [hfound]
  exact congrArg (fun entry => some entry.2) hsame

namespace Counted

variable {r : Registry E} {outside : Nat → Nat} {ref : Nat}

/-- A registry without entries and instances owns nothing. -/
theorem empty : ({} : Registry E).Counted fun _ => 0 where
  handles_nodup := List.nodup_nil
  noneIdle := fun ref tenant h => by
    rw [Pool.tenant?, List.getElem?_nil] at h
    cases h
  owners_eq := fun ref => by
    rw [Pool.owners, Pool.tenant?, List.getElem?_nil]
    rfl

/-- A live handle leads to an instance that has an owner. -/
theorem owners_pos (hr : r.Counted outside) {handle : UInt64} (h : r.ref? handle = some ref) :
    0 < r.pool.owners ref := by
  have hentry : 0 < r.references ref :=
    List.count_pos_iff.mpr (List.mem_map_of_mem (mem_entries_of_ref? h))
  rw [hr.owners_eq]
  omega

/-! ### Moves of ownership -/

/-- A new instance belongs to whoever made it. -/
theorem counted_adopt (hr : r.Counted outside) (engine : E) :
    { r with pool := (r.pool.adopt engine).2 }.Counted (oneMore outside r.pool.created) where
  handles_nodup := hr.handles_nodup
  noneIdle := Pool.noneIdle_adopt hr.noneIdle engine
  owners_eq other := by
    rw [Pool.owners_adopt, hr.owners_eq]
    exact Nat.add_assoc ..

/-- A reference that is handed out is one more outside. -/
theorem counted_share (hr : r.Counted outside) (h : 0 < r.pool.owners ref) :
    { r with pool := r.pool.share ref }.Counted (oneMore outside ref) where
  handles_nodup := hr.handles_nodup
  noneIdle := Pool.noneIdle_share hr.noneIdle ref
  owners_eq other := by
    rw [Pool.owners_share h, hr.owners_eq]
    exact Nat.add_assoc ..

/-- A reference that is given up is none any more. -/
theorem counted_letGo (hr : r.Counted (oneMore outside ref)) : (r.letGo ref).Counted outside where
  handles_nodup := hr.handles_nodup
  noneIdle := Pool.noneIdle_letGo hr.noneIdle ref
  owners_eq other := by
    show (r.pool.letGo ref).owners other = r.references other + outside other
    rw [Pool.owners_letGo, hr.owners_eq, oneMore]
    omega

/-- An entry that is removed leaves its reference behind. -/
theorem counted_without (hr : r.Counted outside) {handle : UInt64}
    (h : r.ref? handle = some ref) :
    { r with entries := without r.entries handle }.Counted (oneMore outside ref) where
  handles_nodup := hr.handles_nodup.sublist (List.filter_sublist.map _)
  noneIdle := hr.noneIdle
  owners_eq other := by
    show r.pool.owners other
      = ((without r.entries handle).map Prod.snd).count other + oneMore outside ref other
    rw [hr.owners_eq, references, count_without hr.handles_nodup h, oneMore]
    omega

/-- A new entry takes a reference over. -/
theorem counted_push (hr : r.Counted (oneMore outside ref)) {handle : UInt64}
    (h : handle ∉ r.handles) (next : UInt64) :
    { r with next, entries := r.entries ++ [(handle, ref)] }.Counted outside where
  handles_nodup := by
    rw [handles, List.map_append, List.nodup_append']
    exact ⟨hr.handles_nodup, by simp, List.disjoint_singleton.mpr h⟩
  noneIdle := hr.noneIdle
  owners_eq other := by
    show r.pool.owners other
      = ((r.entries ++ [(handle, ref)]).map Prod.snd).count other + outside other
    rw [hr.owners_eq, oneMore, references, List.map_append, List.count_append, List.map_singleton,
      List.count_singleton]
    simp only [beq_iff_eq, eq_comm (a := ref)]
    omega

/-! ### The operations -/

/-- Issuing a handle moves the caller's reference into the registry. An entry that has
the handle already gives its own reference up. -/
theorem counted_enter (hr : r.Counted (oneMore outside ref)) : (r.enter ref).2.Counted outside := by
  unfold enter
  simp only
  split
  · -- An entry that had the handle is removed and its reference given up first.
    next replaced hreplaced =>
      have hfreed := (hr.counted_without hreplaced).counted_letGo
      exact hfreed.counted_push (not_mem_handles_without r.entries r.next) _
  · next hfree =>
      -- With no entry under it, the handle is in no entry at all.
      have hnot : r.next ∉ r.handles := fun hmem => by
        have := (contains_iff_mem_handles r r.next).mpr hmem
        rw [contains, hfree] at this
        cases this
      rw [without_of_not_mem hnot]
      exact hr.counted_push hnot _

/-- A new instance has one owner, the entry of its handle. -/
theorem counted_insert (hr : r.Counted outside) (engine : E) :
    (r.insert engine).2.Counted outside := (hr.counted_adopt engine).counted_enter

/-- A handle for an instance that is shared already is one owner more. -/
theorem counted_insertShared (hr : r.Counted outside) (h : 0 < r.pool.owners ref) :
    (r.insertShared ref).2.Counted outside := (hr.counted_share h).counted_enter

/-- A released handle takes its own reference with it. -/
theorem counted_release (hr : r.Counted outside) (handle : UInt64) :
    (r.release handle).2.1.Counted outside := by
  unfold release
  split
  · exact hr
  · next ref href => exact (hr.counted_without href).counted_letGo

/-- A call on an instance has nothing to do with who owns it. -/
theorem counted_update (hr : r.Counted outside) (ref : Nat) (engine : E) :
    { r with pool := r.pool.update ref engine }.Counted outside where
  handles_nodup := hr.handles_nodup
  noneIdle := Pool.noneIdle_update hr.noneIdle ref engine
  owners_eq other := by
    show (r.pool.update ref engine).owners other = _
    rw [Pool.owners_update, hr.owners_eq]
    rfl

end Counted

/-! ### The pool after an operation -/

/-- Issuing a handle makes no instance. -/
theorem created_enter (r : Registry E) (ref : Nat) :
    (r.enter ref).2.pool.created = r.pool.created := by
  unfold enter
  simp only
  split
  · exact Pool.created_letGo ..
  · rfl

/-- An insertion makes one instance. -/
theorem created_insert (r : Registry E) (engine : E) :
    (r.insert engine).2.pool.created = r.pool.created + 1 :=
  (created_enter { r with pool := (r.pool.adopt engine).2 } r.pool.created).trans
    (r.pool.created_adopt engine)

/-- Releasing a handle makes no instance. -/
theorem created_release (r : Registry E) (handle : UInt64) :
    (r.release handle).2.1.pool.created = r.pool.created := by
  unfold release
  split
  · rfl
  · exact Pool.created_letGo ..

/-- Issuing a handle brings no instance back. -/
theorem succeeds_enter (r : Registry E) (ref : Nat) : (r.enter ref).2.pool.Succeeds r.pool := by
  unfold enter
  simp only
  split
  · exact .of_letGo ..
  · exact .refl _

/-- An insertion brings no instance back. -/
theorem succeeds_insert (r : Registry E) (engine : E) :
    (r.insert engine).2.pool.Succeeds r.pool :=
  (succeeds_enter { r with pool := (r.pool.adopt engine).2 } r.pool.created).trans (.of_adopt ..)

/-- A second handle for an instance brings no other one back. -/
theorem succeeds_insertShared (r : Registry E) (ref : Nat) :
    (r.insertShared ref).2.pool.Succeeds r.pool :=
  (succeeds_enter { r with pool := r.pool.share ref } ref).trans (.of_share ..)

/-- Releasing a handle brings no instance back. -/
theorem succeeds_release (r : Registry E) (handle : UInt64) :
    (r.release handle).2.1.pool.Succeeds r.pool := by
  unfold release
  split
  · exact .refl _
  · exact .of_letGo ..

end Registry

end ClassifierBridge
