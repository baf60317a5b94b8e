import OpenTogetherTube.Common.Permissions
import OpenTogetherTube.Lib.Inheritance
import OpenTogetherTube.Lib.Masks

/-!
# What the roles hold

The masks of a `Grants` value, read as sets of permissions over the order in which roles inherit.
Each write of one role's mask is a `raise` of that order, so the values a `Grants` goes through stay
closed under inheritance and within what each role may hold, and a list of masks for different
roles means the same in every order.
-/

namespace OpenTogetherTube

open Lib

namespace Role

/-- The roles a role inherits from, itself included. -/
def inheritsFrom : Role → List Role
  | .unregisteredUser => [.unregisteredUser]
  | .registeredUser => [.unregisteredUser, .registeredUser]
  | .trustedUser => [.unregisteredUser, .registeredUser, .trustedUser]
  | .moderator => [.unregisteredUser, .registeredUser, .trustedUser, .moderator]
  | .administrator => chain
  | .owner => [.owner]

/-- Roles in the order of inheritance; the owner is apart from the others. -/
instance : PartialOrder Role where
  le lower upper := lower ∈ upper.inheritsFrom
  le_refl role := by cases role <;> decide
  le_trans lower middle upper := by cases lower <;> cases middle <;> cases upper <;> decide
  le_antisymm lower upper := by cases lower <;> cases upper <;> decide

instance (lower upper : Role) : Decidable (lower ≤ upper) :=
  inferInstanceAs (Decidable (lower ∈ upper.inheritsFrom))

instance (lower upper : Role) : Decidable (lower < upper) :=
  decidable_of_iff _ lt_iff_le_not_ge.symm

instance : LocallyFiniteOrderBot Role :=
  .ofIic Role (fun role => role.inheritsFrom.toFinset) fun _ _ => List.mem_toFinset

instance : WellFoundedLT Role :=
  StrictMono.wellFoundedLT (f := fun role => role.inheritsFrom.length) fun lower upper => by
    cases lower <;> cases upper <;> decide

/-- Inheritance goes by the numbers of the roles, from zero up. -/
theorem le_iff_rank {lower upper : Role} :
    lower ≤ upper ↔ lower = upper ∨ 0 ≤ lower.rank ∧ lower.rank ≤ upper.rank := by
  cases lower <;> cases upper <;> decide

/-- What a role may hold. -/
def allowed (role : Role) : Set Nat := bits (getValidationMask role)

/-- A higher role may hold what a lower one may. -/
theorem allowed_monotone : Monotone allowed := by
  intro lower upper below
  refine bits_subset_bits.mpr ?_
  cases lower <;> cases upper <;> first | exact absurd below (by decide) | decide +kernel

end Role

namespace Grants

variable (grants : Grants)

/-- What the roles hold. -/
def held (role : Role) : Set Nat := bits (grants.getMask role)

@[simp] theorem held_empty : held ⟨[]⟩ = fun _ => ∅ :=
  funext fun _ => bits_zero

theorem getMask_set (masks : OrderedMap Role Nat) (role other : Role) (mask : Nat) :
    getMask ⟨masks.set role mask⟩ other = if other = role then mask else getMask ⟨masks⟩ other := by
  unfold getMask
  rw [OrderedMap.get_set]
  split <;> rfl

/-- One write, before anything is inherited. -/
theorem held_set (masks : OrderedMap Role Nat) (role : Role) (mask : Nat) :
    held ⟨masks.set role mask⟩ = Function.update (held ⟨masks⟩) role (bits mask) := by
  funext other
  unfold held
  rw [getMask_set, Function.update_apply]
  split <;> rfl

/-- The masks after the pass over the chain. -/
theorem getMask_processInheiritance (role : Role) :
    grants.processInheiritance.getMask role =
      (role.inheritsFrom.map grants.getMask).foldl (fun full mask => full ||| mask) 0 := by
  cases role <;>
    simp [processInheiritance, Role.chain, Role.inheritsFrom, getMask, OrderedMap.get_set]

/-- The pass over the chain lets every role inherit. -/
theorem held_processInheiritance : grants.processInheiritance.held = partialSups grants.held := by
  funext role
  ext position
  unfold held
  rw [getMask_processInheiritance, mem_bits_foldl_or, mem_partialSups]
  constructor
  · rintro (nothing | ⟨mask, listed, set⟩)
    · rw [bits_zero] at nothing
      exact nothing.elim
    · obtain ⟨lower, below, rfl⟩ := List.mem_map.mp listed
      exact ⟨lower, below, set⟩
  · rintro ⟨lower, below, set⟩
    exact .inr ⟨_, List.mem_map_of_mem below, set⟩

/-- One role's mask is clipped to what the role may hold, and inherited. -/
theorem held_setRoleGrants (role : Role) (mask : Nat) :
    (grants.setRoleGrants role mask).held =
      raise grants.held role (bits mask ∩ role.allowed) := by
  unfold setRoleGrants raise
  rw [held_processInheiritance, held_set, bits_and]
  rfl

/-- The permissions a list of masks gives, each clipped to what its role may hold. -/
def writes (entries : List (Role × Nat)) : List (Role × Set Nat) :=
  entries.map fun entry => (entry.1, bits entry.2 ∩ entry.1.allowed)

theorem writes_roles (entries : List (Role × Nat)) :
    (writes entries).map Prod.fst = entries.map Prod.fst := by
  unfold writes
  rw [List.map_map]
  rfl

theorem held_foldl_setRoleGrants (entries : List (Role × Nat)) :
    (entries.foldl (fun grants entry => grants.setRoleGrants entry.1 entry.2) grants).held =
      raiseAll grants.held (writes entries) := by
  induction entries generalizing grants with
  | nil => rfl
  | cons entry rest ih =>
      refine (ih _).trans ?_
      rw [held_setRoleGrants]
      rfl

/-- The masks that `setAllGrants` does not skip. -/
def nonzero (entries : OrderedMap Role Nat) : OrderedMap Role Nat :=
  entries.filter fun entry => decide (entry.2 ≠ 0)

/-- `setAllGrants` of a `Map` skips the zero masks. -/
theorem setAllGrants_eq_foldl (entries : OrderedMap Role Nat) :
    setAllGrants entries = (nonzero entries).foldl
      (fun grants entry => grants.setRoleGrants entry.1 entry.2) ⟨[]⟩ := by
  unfold setAllGrants nonzero
  rw [List.foldl_filter]
  refine List.foldl_ext _ _ _ fun grants entry _ => ?_
  by_cases zero : entry.2 = 0
  · simp [zero]
  · simp [zero]

theorem held_setAllGrants (entries : OrderedMap Role Nat) :
    (setAllGrants entries).held =
      raiseAll (fun _ => ∅) (writes (nonzero entries)) := by
  rw [setAllGrants_eq_foldl, held_foldl_setRoleGrants, held_empty]

/-- Whatever the order of the masks of different roles, a role holds what the masks up to it
give. -/
theorem mem_held_setAllGrants {entries : OrderedMap Role Nat}
    (distinct : (entries.map Prod.fst).Nodup) {role : Role} {position : Nat} :
    position ∈ (setAllGrants entries).held role ↔
      ∃ entry ∈ entries, entry.1 ≤ role ∧ position ∈ bits entry.2 ∩ entry.1.allowed := by
  have apart : ((writes (nonzero entries)).map Prod.fst).Nodup := by
    rw [writes_roles]
    exact distinct.sublist (List.filter_sublist.map _)
  have nothing : (fun _ : Role => (∅ : Set Nat)) = partialSups fun _ : Role => (∅ : Set Nat) :=
    (monotone_const.partialSups_eq).symm
  rw [held_setAllGrants, nothing, raiseAll_partialSups apart fun _ _ => Set.empty_subset _,
    mem_partialSups]
  constructor
  · rintro ⟨lower, below, holds⟩
    by_cases listed : lower ∈ (writes (nonzero entries)).map Prod.fst
    · obtain ⟨write, member, rfl⟩ := List.mem_map.mp listed
      rw [writeAll_of_mem apart member] at holds
      obtain ⟨entry, kept, rfl⟩ := List.mem_map.mp member
      exact ⟨entry, (List.mem_filter.mp kept).1, below, holds⟩
    · rw [writeAll_of_not_mem listed] at holds
      exact holds.elim
  · rintro ⟨entry, member, below, holds⟩
    have counts : entry.2 ≠ 0 := fun zero => by
      rw [zero, bits_zero, Set.empty_inter] at holds
      exact holds
    have kept : (entry.1, bits entry.2 ∩ entry.1.allowed) ∈ writes (nonzero entries) :=
      List.mem_map_of_mem (List.mem_filter.mpr ⟨member, decide_eq_true counts⟩)
    refine ⟨entry.1, below, ?_⟩
    rw [writeAll_of_mem apart kept]
    exact holds

/-- A role holds what lower roles hold, and no more than it may. -/
structure Sound : Prop where
  inherited : Monotone grants.held
  within : grants.held ≤ Role.allowed

/-- Every role of the chain has a mask. -/
def Complete : Prop := ∀ role ∈ Role.chain, grants.masks.has role = true

theorem distinct_processInheiritance {grants : Grants} (distinct : grants.masks.keys.Nodup) :
    grants.processInheiritance.masks.keys.Nodup :=
  List.foldlRecOn (motive := fun progress : OrderedMap Role Nat × Nat => progress.1.keys.Nodup) _ _
    distinct fun _ kept _ _ => OrderedMap.nodup_keys_set kept _ _

theorem distinct_setRoleGrants {grants : Grants} (distinct : grants.masks.keys.Nodup) (role : Role)
    (mask : Nat) : (grants.setRoleGrants role mask).masks.keys.Nodup :=
  distinct_processInheiritance (OrderedMap.nodup_keys_set distinct role _)

theorem distinct_foldl_setRoleGrants {grants : Grants} (distinct : grants.masks.keys.Nodup)
    (entries : List (Role × Nat)) :
    (entries.foldl (fun grants entry => grants.setRoleGrants entry.1 entry.2)
      grants).masks.keys.Nodup := by
  induction entries generalizing grants with
  | nil => exact distinct
  | cons entry rest ih =>
      exact ih (distinct_setRoleGrants distinct entry.1 entry.2)

namespace Sound

theorem empty : Sound ⟨[]⟩ where
  inherited := by rw [held_empty]; exact monotone_const
  within := by rw [held_empty]; exact fun _ => Set.empty_subset _

variable {grants}

theorem setRoleGrants (sound : grants.Sound) (role : Role) (mask : Nat) :
    (grants.setRoleGrants role mask).Sound where
  inherited := by
    rw [held_setRoleGrants]
    exact (raise grants.held role _).monotone
  within := by
    rw [held_setRoleGrants]
    exact raise_le Role.allowed_monotone sound.within Set.inter_subset_right

theorem foldl_setRoleGrants (sound : grants.Sound) (entries : List (Role × Nat)) :
    (entries.foldl (fun grants entry => grants.setRoleGrants entry.1 entry.2) grants).Sound := by
  induction entries generalizing grants with
  | nil => exact sound
  | cons entry rest ih =>
      exact ih (sound.setRoleGrants entry.1 entry.2)

theorem setAllGrants (entries : OrderedMap Role Nat) : (Grants.setAllGrants entries).Sound := by
  rw [setAllGrants_eq_foldl]
  exact empty.foldl_setRoleGrants _

theorem ofMasks (entries : OrderedMap Role Nat) : (Grants.ofMasks entries).Sound :=
  ((setAllGrants entries).setRoleGrants _ _).setRoleGrants _ _

theorem applyPermissionAdditions (sound : grants.Sound) (fromRevision : Nat) :
    (OpenTogetherTube.applyPermissionAdditions grants fromRevision).Sound := by
  unfold OpenTogetherTube.applyPermissionAdditions
  refine List.foldlRecOn _ _ sound fun grants sound revision _ => ?_
  dsimp only
  split
  · exact sound
  · exact sound.setRoleGrants _ _

end Sound

/-- A write of any mask leaves every role of the chain with one. -/
theorem complete_setRoleGrants (role : Role) (mask : Nat) : (grants.setRoleGrants role mask).Complete := by
  intro other listed
  unfold setRoleGrants processInheiritance OrderedMap.has
  simp only [Role.chain, List.foldl_cons, List.foldl_nil, OrderedMap.get_set]
  simp only [Role.chain, List.mem_cons, List.not_mem_nil, or_false] at listed
  rcases listed with rfl | rfl | rfl | rfl | rfl <;> rfl

theorem complete_applyPermissionAdditions (complete : grants.Complete) (fromRevision : Nat) :
    (applyPermissionAdditions grants fromRevision).Complete := by
  unfold applyPermissionAdditions
  refine List.foldlRecOn _ _ complete fun grants complete revision _ => ?_
  dsimp only
  split
  · exact complete
  · exact complete_setRoleGrants _ _ _

/-- The mask the constructor forces is a bound of every mask a role may hold. -/
theorem allowed_subset_all (role : Role) : role.allowed ⊆ bits (maskOf Permission.all) := by
  refine bits_subset_bits.mpr ?_
  cases role <;> decide +kernel

variable {grants} in
/-- Giving a role everything it may hold fills its mask. -/
theorem Sound.getMask_setRoleGrants_all (sound : grants.Sound) (role : Role) :
    (grants.setRoleGrants role (maskOf Permission.all)).getMask role = getValidationMask role := by
  refine bits_injective (subset_antisymm ((sound.setRoleGrants role _).within role) ?_)
  change role.allowed ⊆ (grants.setRoleGrants role (maskOf Permission.all)).held role
  rw [held_setRoleGrants, Set.inter_eq_right.mpr (allowed_subset_all role)]
  exact le_raise grants.held role role.allowed

variable {grants} in
/-- Writing one role leaves the roles alone that do not inherit from it. -/
theorem Sound.getMask_setRoleGrants_of_not_le (sound : grants.Sound) {role other : Role} (mask : Nat)
    (apart : ¬ role ≤ other) : (grants.setRoleGrants role mask).getMask other = grants.getMask other := by
  refine bits_injective ?_
  change (grants.setRoleGrants role mask).held other = grants.held other
  rw [held_setRoleGrants]
  exact raise_of_not_le sound.inherited apart

/-- The constructor gives the administrator everything. -/
theorem getMask_ofMasks_administrator (entries : OrderedMap Role Nat) :
    (ofMasks entries).getMask .administrator = maskOf Permission.all := by
  unfold ofMasks
  rw [((Sound.setAllGrants entries).setRoleGrants _ _).getMask_setRoleGrants_of_not_le _ (by decide),
    (Sound.setAllGrants entries).getMask_setRoleGrants_all]
  decide +kernel

/-- The constructor gives the owner everything. -/
theorem getMask_ofMasks_owner (entries : OrderedMap Role Nat) :
    (ofMasks entries).getMask .owner = maskOf Permission.all := by
  unfold ofMasks
  rw [((Sound.setAllGrants entries).setRoleGrants _ _).getMask_setRoleGrants_all]
  decide +kernel

/-- Below the administrator the constructor gives what it is given. -/
theorem getMask_ofMasks (entries : OrderedMap Role Nat) {role : Role}
    (low : role ≤ .moderator) : (ofMasks entries).getMask role = (setAllGrants entries).getMask role := by
  have below_owner : ¬ Role.owner ≤ role := by revert low; cases role <;> decide
  have below_administrator : ¬ Role.administrator ≤ role := by revert low; cases role <;> decide
  unfold ofMasks
  rw [((Sound.setAllGrants entries).setRoleGrants _ _).getMask_setRoleGrants_of_not_le _ below_owner,
    (Sound.setAllGrants entries).getMask_setRoleGrants_of_not_le _ below_administrator]

end Grants

end OpenTogetherTube
