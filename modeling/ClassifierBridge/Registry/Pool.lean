/-!
# `ClassifierBridge.Registry.Pool`: instances with shared ownership

An engine instance may be owned by a handle and by any number of references
that were handed out. The pool keeps every instance with the number of its
owners, under a reference that is never used for another instance. When the last
owner lets go, the instance is destroyed: its place stays empty from then on.

* `tenant?_adopt`, `tenant?_put`: what a change shows through `tenant?`.
* `owners_update`: a call on an instance leaves the numbers of owners alone.
-/

set_option autoImplicit false

namespace ClassifierBridge

/-- An instance and the number of its owners. -/
structure Tenant (E : Type) where
  engine : E
  owners : Nat

/-- All instances that were ever made, by reference; the place of an instance
that was destroyed is empty. -/
structure Pool (E : Type) where
  places : List (Option (Tenant E)) := []

namespace Pool

variable {E : Type}

/-- The tenant behind a reference. -/
def tenant? (pool : Pool E) (ref : Nat) : Option (Tenant E) := pool.places[ref]?.join

/-- The instance behind a reference, if it is there. -/
def engine? (pool : Pool E) (ref : Nat) : Option E := (pool.tenant? ref).map Tenant.engine

/-- The number of owners of an instance; nobody owns what has been destroyed. -/
def owners (pool : Pool E) (ref : Nat) : Nat := ((pool.tenant? ref).map Tenant.owners).getD 0

/-- The number of instances that were made. -/
def created (pool : Pool E) : Nat := pool.places.length

/-- The number of instances that were destroyed. -/
def destroyed (pool : Pool E) : Nat := pool.places.countP Option.isNone

/-- Takes in a new instance, which has one owner, and gives it a reference. -/
def adopt (pool : Pool E) (engine : E) : Nat × Pool E :=
  (pool.places.length, ⟨pool.places ++ [some ⟨engine, 1⟩]⟩)

/-- Puts a tenant, or nothing, in the place of a reference. -/
def put (pool : Pool E) (ref : Nat) (place : Option (Tenant E)) : Pool E :=
  ⟨pool.places.set ref place⟩

/-- Records what a call made of an instance. -/
def update (pool : Pool E) (ref : Nat) (engine : E) : Pool E :=
  match pool.tenant? ref with
  | some tenant => pool.put ref (some { tenant with engine })
  | none => pool

/-- Adds an owner. -/
def share (pool : Pool E) (ref : Nat) : Pool E :=
  match pool.tenant? ref with
  | some tenant => pool.put ref (some { tenant with owners := tenant.owners + 1 })
  | none => pool

/-- Takes away an owner, and the instance with the last one. -/
def letGo (pool : Pool E) (ref : Nat) : Pool E :=
  match pool.tenant? ref with
  | some tenant =>
    if tenant.owners ≤ 1 then pool.put ref none
    else pool.put ref (some { tenant with owners := tenant.owners - 1 })
  | none => pool

/-- Only places that were created are taken. -/
theorem lt_created_of_tenant? {pool : Pool E} {ref : Nat} {tenant : Tenant E}
    (h : pool.tenant? ref = some tenant) : ref < pool.created := by
  unfold tenant? at h
  rcases Nat.lt_or_ge ref pool.places.length with hinside | houtside
  · exact hinside
  · rw [List.getElem?_eq_none houtside] at h
    cases h

/-- Writing one place leaves the others as they are. -/
theorem tenant?_put {pool : Pool E} {ref : Nat} (place : Option (Tenant E)) (other : Nat)
    (h : ref < pool.created) :
    (pool.put ref place).tenant? other = if ref = other then place else pool.tenant? other := by
  unfold tenant? put
  rw [List.getElem?_set]
  split
  · next hsame =>
      subst hsame
      rw [if_pos (show ref < pool.places.length from h)]
      rfl
  · rfl

/-- A new instance is found under its reference, and nothing else has changed. -/
theorem tenant?_adopt (pool : Pool E) (engine : E) (ref : Nat) :
    (pool.adopt engine).2.tenant? ref
      = if ref = pool.created then some ⟨engine, 1⟩ else pool.tenant? ref := by
  unfold tenant? adopt created
  simp only
  split
  · next hsame =>
      subst hsame
      rw [List.getElem?_concat_length]
      rfl
  · next hother =>
      rcases Nat.lt_or_ge ref pool.places.length with hinside | houtside
      · rw [List.getElem?_append_left hinside]
      · rw [List.getElem?_eq_none houtside,
          List.getElem?_eq_none (by simp only [List.length_append, List.length_singleton]; omega)]

/-- A call on one instance does not change who owns which. -/
theorem owners_update (pool : Pool E) (ref : Nat) (engine : E) (other : Nat) :
    (pool.update ref engine).owners other = pool.owners other := by
  unfold update
  cases h : pool.tenant? ref with
  | none => rfl
  | some tenant =>
      unfold owners
      simp only
      rw [tenant?_put _ _ (lt_created_of_tenant? h)]
      split
      · next hsame =>
          subst hsame
          rw [h]
          rfl
      · rfl

end Pool

end ClassifierBridge
