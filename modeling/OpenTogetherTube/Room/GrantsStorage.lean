import OpenTogetherTube.Common.GrantsRuns
import OpenTogetherTube.Room.Checkpoint

/-!
# Grants in the database

A row keeps the masks of a room's grants without those of the administrator and the owner. Masks
that are closed and valid are what inheriting once more makes of them, so loading the row, or
reading the JSON of all masks, gives every role its mask back.
-/

namespace OpenTogetherTube

open Lib

namespace Grants

variable (grants : Grants)

def toJSON : List (Role × Nat) := grants.masks

/-- What the row keeps of the grants. -/
def stored : OrderedMap Role Nat := ((grants.deleteRole .administrator).deleteRole .owner).masks

variable {grants}

theorem get_stored {role : Role} (low : role ≤ .moderator) :
    grants.stored.get role = grants.masks.get role := by
  unfold stored deleteRole
  rw [OrderedMap.get_delete, OrderedMap.get_delete, if_neg, if_neg] <;>
    · revert low; cases role <;> decide

theorem Settled.distinct_stored (settled : grants.Settled) : (grants.stored.map Prod.fst).Nodup :=
  settled.distinct.sublist ((List.filter_sublist.trans List.filter_sublist).map Prod.fst)

/-- Masks that are sound are what inheriting once more makes of them. -/
theorem Settled.getMask_setAllGrants (settled : grants.Settled) {entries : OrderedMap Role Nat}
    (distinct : (entries.map Prod.fst).Nodup) {role : Role}
    (same : ∀ lower ≤ role, entries.get lower = grants.masks.get lower) :
    (setAllGrants entries).getMask role = grants.getMask role := by
  refine bits_injective (Set.ext fun position => ?_)
  refine (mem_held_setAllGrants distinct).trans ⟨?_, fun set => ?_⟩
  · rintro ⟨entry, member, below, set, _⟩
    have kept : grants.getMask entry.1 = entry.2 := by
      unfold getMask
      rw [← same entry.1 below, OrderedMap.get_of_mem distinct member]
      rfl
    rw [← kept] at set
    exact settled.sound.inherited below set
  · have found : entries.get role = some (grants.getMask role) := by
      rw [same role le_rfl]
      unfold getMask
      cases present : grants.masks.get role with
      | some mask => rfl
      | none =>
          unfold getMask at set
          rw [present, Option.getD_none, bits_zero] at set
          exact set.elim
    exact ⟨_, OrderedMap.mem_of_get found, le_rfl, set, settled.sound.within role set⟩

theorem Settled.getMask_ofMasks (settled : grants.Settled) {entries : OrderedMap Role Nat}
    (distinct : (entries.map Prod.fst).Nodup)
    (same : ∀ role ≤ Role.moderator, entries.get role = grants.masks.get role) (role : Role) :
    (ofMasks entries).getMask role = grants.getMask role := by
  by_cases low : role ≤ .moderator
  · rw [Grants.getMask_ofMasks entries low]
    exact settled.getMask_setAllGrants distinct fun lower below => same lower (below.trans low)
  · have top : role = .administrator ∨ role = .owner := by revert low; cases role <;> decide
    rcases top with rfl | rfl
    · rw [getMask_ofMasks_administrator, settled.administrator]
    · rw [getMask_ofMasks_owner, settled.owner]

/-- The chain and a full owner leave no role without a mask. -/
theorem get_eq_getMask (complete : grants.Complete)
    (full : grants.getMask .owner = maskOf Permission.all) (role : Role) :
    grants.masks.get role = some (grants.getMask role) := by
  by_cases owner : role = .owner
  · rw [← owner] at full
    unfold getMask at full ⊢
    cases present : grants.masks.get role with
    | some mask => rfl
    | none =>
        rw [present, Option.getD_none] at full
        exact absurd full (by decide +kernel)
  · have listed : role ∈ Role.chain := by revert owner; cases role <;> decide
    obtain ⟨mask, found⟩ := Option.isSome_iff_exists.mp (complete role listed)
    unfold getMask
    rw [found]
    rfl

/-- `setGrants` keeps what the constructor made. -/
theorem Settled.setAllGrants (settled : grants.Settled) :
    (Grants.setAllGrants grants.masks).Settled where
  distinct := GrantsInput.setAllGrants_distinct (.map grants.masks)
  complete := by
    have full := get_eq_getMask settled.complete settled.owner .owner
    rw [settled.owner] at full
    exact complete_setAllGrants ⟨_, OrderedMap.mem_of_get full, by decide +kernel⟩
  sound := .setAllGrants grants.masks
  administrator :=
    (settled.getMask_setAllGrants settled.distinct fun _ _ => rfl).trans settled.administrator
  owner := (settled.getMask_setAllGrants settled.distinct fun _ _ => rfl).trans settled.owner

theorem Settled.get_ofMasks (settled : grants.Settled) {entries : OrderedMap Role Nat}
    (distinct : (entries.map Prod.fst).Nodup)
    (same : ∀ role ≤ Role.moderator, entries.get role = grants.masks.get role) (role : Role) :
    (ofMasks entries).masks.get role = grants.masks.get role := by
  have complete : (ofMasks entries).Complete := complete_setRoleGrants _ _ _
  rw [get_eq_getMask complete (getMask_ofMasks_owner entries),
    get_eq_getMask settled.complete settled.owner, settled.getMask_ofMasks distinct same]

/-- Grants that a room can hold come back from a saved room, from a partial save and from JSON with
the same mask for every role. -/
theorem storage_round_trip (settled : grants.Settled) (role : Role) :
    (∀ room : Room, room.grants = grants →
      ∃ loaded, (dbToRoomArgs (roomToDb room)).grants = some loaded ∧
        loaded.masks.get role = grants.masks.get role) ∧
    (∀ (state : PersistableState) (row : DbRoom), state .grants = some grants →
      ∃ loaded, (dbToRoomArgs (roomToDbPartial state row)).grants = some loaded ∧
        loaded.masks.get role = grants.masks.get role) ∧
    (new (some (.tuples grants.toJSON))).masks.get role = grants.masks.get role := by
  have loads : (ofMasks grants.stored).masks.get role = grants.masks.get role :=
    settled.get_ofMasks settled.distinct_stored (fun _ low => get_stored low) role
  refine ⟨?_, ?_, ?_⟩
  · rintro room rfl
    exact ⟨_, rfl, loads⟩
  · intro state row given
    refine ⟨_, rfl, ?_⟩
    change (ofMasks (((state .grants).map Grants.stored).getD row.permissions)).masks.get role = _
    rw [given, Option.map_some, Option.getD_some]
    exact loads
  · rw [new_tuples, toJSON, OrderedMap.ofEntries_of_nodup settled.distinct]
    exact settled.get_ofMasks settled.distinct (fun _ _ => rfl) role

/-- The default permissions of a moderator come back from the JSON. -/
theorem storage_round_trip_default :
    (new (some (.tuples (new none).toJSON))).masks.get .moderator = (new none).masks.get .moderator :=
  (storage_round_trip (settled_new none) .moderator).2.2

end Grants

end OpenTogetherTube
