import OpenTogetherTube.Common.Grants

/-!
# Grants under any writes

What the constructor and `setAllGrants` take, and the writes a `Grants` value goes through. The
masks stay closed under inheritance and valid, whatever is written. A mask is a number of which
only the bits of `PERMISSIONS` are ever read, so it is any natural number here.
-/

namespace OpenTogetherTube

open Lib

/-- The permissions `setRoleGrants` takes, by name or as a mask. -/
inductive PermissionsInput where
  | names (permissions : List String)
  | mask (mask : Nat)

def normalizePermissionsInput : PermissionsInput → Nat
  | .names permissions => parseIntoGrantMask permissions
  | .mask mask => mask

/-- What the constructor and `setAllGrants` take: a `Grants`, a `Map`, an old record by role, or
tuples. -/
inductive GrantsInput where
  | grants (given : Grants)
  | map (masks : OrderedMap Role Nat)
  | record (masks : Role → Option Nat)
  | tuples (entries : List (Role × Nat))

namespace GrantsInput

/-- The order of the keys of an old record: the numbers from zero up, then the owner's, which is no
array index. -/
def recordRoles : List Role := Role.chain ++ [.owner]

/-- `setAllGrants`. The zeros of a record are written. -/
def setAllGrants : GrantsInput → Grants
  | .grants given => Grants.setAllGrants given.masks
  | .map masks => Grants.setAllGrants masks
  | .record masks =>
      (recordRoles.filterMap fun role => (masks role).map fun mask => (role, mask)).foldl
        (fun grants entry => grants.setRoleGrants entry.1 entry.2) ⟨[]⟩
  | .tuples entries => Grants.setAllGrants (OrderedMap.ofEntries entries)

/-- Some mask that counts is not zero; of several for one role the last counts. -/
def Nonzero : GrantsInput → Prop
  | .grants given => ∃ entry ∈ given.masks, entry.2 ≠ 0
  | .map masks => ∃ entry ∈ masks, entry.2 ≠ 0
  | .record masks => ∃ role, ∃ mask ≠ 0, masks role = some mask
  | .tuples entries => ∃ entry ∈ OrderedMap.ofEntries entries, entry.2 ≠ 0

theorem setAllGrants_distinct (input : GrantsInput) : input.setAllGrants.masks.keys.Nodup := by
  have fresh : (⟨[]⟩ : Grants).masks.keys.Nodup := List.nodup_nil
  have mapped : ∀ masks : OrderedMap Role Nat, (Grants.setAllGrants masks).masks.keys.Nodup := by
    intro masks
    rw [Grants.setAllGrants_eq_foldl]
    exact Grants.distinct_foldl_setRoleGrants fresh _
  cases input with
  | grants given => exact mapped given.masks
  | map masks => exact mapped masks
  | record masks => exact Grants.distinct_foldl_setRoleGrants fresh _
  | tuples entries => exact mapped _

theorem setAllGrants_sound (input : GrantsInput) : input.setAllGrants.Sound := by
  cases input with
  | grants given => exact .setAllGrants given.masks
  | map masks => exact .setAllGrants masks
  | record masks => exact Grants.Sound.empty.foldl_setRoleGrants _
  | tuples entries => exact .setAllGrants (OrderedMap.ofEntries entries)

end GrantsInput

namespace Grants

/-- The constructor: the default permissions where nothing is given, and a full administrator and
owner. -/
def new (input : Option GrantsInput) : Grants :=
  (((input.getD (.grants defaultPermissions)).setAllGrants).setRoleGrants .administrator
    (maskOf Permission.all)).setRoleGrants .owner (maskOf Permission.all)

theorem new_sound (input : Option GrantsInput) : (new input).Sound :=
  ((GrantsInput.setAllGrants_sound _).setRoleGrants _ _).setRoleGrants _ _

theorem new_distinct (input : Option GrantsInput) : (new input).masks.keys.Nodup :=
  distinct_setRoleGrants (distinct_setRoleGrants (GrantsInput.setAllGrants_distinct _) _ _) _ _

theorem new_complete (input : Option GrantsInput) : (new input).Complete :=
  complete_setRoleGrants _ _ _

/-- The constructor on tuples, as on the `Map` made of them. -/
theorem new_tuples (entries : List (Role × Nat)) :
    new (some (.tuples entries)) = ofMasks (OrderedMap.ofEntries entries) := by
  unfold new ofMasks
  rw [Option.getD_some]
  rfl

/-- After one write at least every role of the chain has a mask. -/
theorem complete_foldl_setRoleGrants {entries : List (Role × Nat)} (some_entry : entries ≠ []) :
    (entries.foldl (fun (grants : Grants) entry => grants.setRoleGrants entry.1 entry.2)
      ⟨[]⟩).Complete := by
  rw [← List.dropLast_append_getLast some_entry, List.foldl_append]
  exact complete_setRoleGrants _ _ _

theorem complete_setAllGrants {entries : OrderedMap Role Nat}
    (some_nonzero : ∃ entry ∈ entries, entry.2 ≠ 0) : (setAllGrants entries).Complete := by
  obtain ⟨entry, member, counts⟩ := some_nonzero
  rw [setAllGrants_eq_foldl]
  exact complete_foldl_setRoleGrants
    (List.ne_nil_of_mem (List.mem_filter.mpr ⟨member, decide_eq_true counts⟩))

end Grants

theorem GrantsInput.setAllGrants_complete {input : GrantsInput} (counts : input.Nonzero) :
    input.setAllGrants.Complete := by
  cases input with
  | grants given => exact Grants.complete_setAllGrants counts
  | map masks => exact Grants.complete_setAllGrants counts
  | tuples entries => exact Grants.complete_setAllGrants counts
  | record masks =>
      obtain ⟨role, mask, _, found⟩ := counts
      have listed : role ∈ recordRoles := by cases role <;> decide
      refine Grants.complete_foldl_setRoleGrants (List.ne_nil_of_mem (a := (role, mask)) ?_)
      refine List.mem_filterMap.mpr ⟨role, listed, ?_⟩
      rw [found]
      rfl

/-- A write to a `Grants` value. -/
inductive GrantsStep where
  | setRoleGrants (role : Role) (permissions : PermissionsInput)
  | applyPermissionAdditions (fromRevision : Nat)
  | setAllGrants (input : GrantsInput)

namespace GrantsStep

/-- The value after a write. -/
def apply (grants : Grants) : GrantsStep → Grants
  | .setRoleGrants role permissions =>
      grants.setRoleGrants role (normalizePermissionsInput permissions)
  | .applyPermissionAdditions fromRevision =>
      OpenTogetherTube.applyPermissionAdditions grants fromRevision
  | .setAllGrants input => input.setAllGrants

/-- A replacement of all masks has one that is not zero. -/
def Nonzero : GrantsStep → Prop
  | .setAllGrants input => input.Nonzero
  | _ => True

theorem apply_sound {grants : Grants} (sound : grants.Sound) (step : GrantsStep) :
    (step.apply grants).Sound := by
  cases step with
  | setRoleGrants role permissions => exact sound.setRoleGrants role _
  | applyPermissionAdditions fromRevision => exact sound.applyPermissionAdditions fromRevision
  | setAllGrants input => exact input.setAllGrants_sound

theorem apply_complete {grants : Grants} (complete : grants.Complete) {step : GrantsStep}
    (counts : step.Nonzero) : (step.apply grants).Complete := by
  cases step with
  | setRoleGrants role permissions => exact grants.complete_setRoleGrants role _
  | applyPermissionAdditions fromRevision =>
      exact grants.complete_applyPermissionAdditions complete fromRevision
  | setAllGrants input => exact GrantsInput.setAllGrants_complete counts

/-- The value after a sequence of writes. -/
def run (grants : Grants) (steps : List GrantsStep) : Grants := steps.foldl apply grants

theorem run_sound {grants : Grants} (sound : grants.Sound) (steps : List GrantsStep) :
    (run grants steps).Sound := by
  induction steps generalizing grants with
  | nil => exact sound
  | cons step rest ih => exact ih (apply_sound sound step)

theorem run_complete {grants : Grants} (complete : grants.Complete) {steps : List GrantsStep}
    (counts : ∀ step ∈ steps, step.Nonzero) : (run grants steps).Complete := by
  induction steps generalizing grants with
  | nil => exact complete
  | cons step rest ih =>
      exact ih (apply_complete complete (counts step List.mem_cons_self))
        fun later member => counts later (List.mem_cons_of_mem step member)

end GrantsStep

namespace Grants

/-- What the entries for a role and the roles below it give, each clipped to what its role may
hold. -/
def requestedUpTo (entries : List (Role × Nat)) (role : Role) : Nat :=
  ((entries.filter fun entry => decide (0 ≤ entry.1.rank ∧ entry.1.rank ≤ role.rank)).map
    fun entry => entry.2 &&& getValidationMask entry.1).foldl (fun full mask => full ||| mask) 0

theorem mem_requestedUpTo {entries : List (Role × Nat)} {role : Role} (placed : 0 ≤ role.rank)
    {position : Nat} : position ∈ bits (requestedUpTo entries role) ↔
      ∃ entry ∈ entries, entry.1 ≤ role ∧ position ∈ bits entry.2 ∩ entry.1.allowed := by
  unfold requestedUpTo
  rw [mem_bits_foldl_or, bits_zero]
  constructor
  · rintro (nothing | ⟨mask, listed, set⟩)
    · exact nothing.elim
    · obtain ⟨entry, kept, rfl⟩ := List.mem_map.mp listed
      obtain ⟨member, below⟩ := List.mem_filter.mp kept
      rw [bits_and] at set
      exact ⟨entry, member, Role.le_iff_rank.mpr (.inr (of_decide_eq_true below)), set⟩
  · rintro ⟨entry, member, below, set⟩
    refine .inr ⟨_, List.mem_map_of_mem (List.mem_filter.mpr ⟨member, decide_eq_true ?_⟩), ?_⟩
    · rcases Role.le_iff_rank.mp below with same | ranks
      · rw [same]
        exact ⟨placed, le_rfl⟩
      · exact ranks
    · rw [bits_and]
      exact set

/-- The order of the entries does not matter. -/
theorem requestedUpTo_perm {entries other : List (Role × Nat)} (same : other.Perm entries)
    (role : Role) : requestedUpTo other role = requestedUpTo entries role := by
  unfold requestedUpTo
  refine bits_injective (Set.ext fun position => ?_)
  rw [mem_bits_foldl_or, mem_bits_foldl_or]
  exact or_congr_right (exists_congr fun mask => and_congr_left'
    ((same.filter _).map _).mem_iff)

/-- The constructor on masks of different roles. -/
theorem getMask_ofMasks_eq {entries : OrderedMap Role Nat}
    (distinct : (entries.map Prod.fst).Nodup) {role : Role} (low : role ≤ .moderator) :
    (ofMasks entries).getMask role = requestedUpTo entries role := by
  have placed : 0 ≤ role.rank := by revert low; cases role <;> decide
  rw [getMask_ofMasks entries low]
  refine bits_injective (Set.ext fun position => ?_)
  rw [mem_requestedUpTo placed]
  exact mem_held_setAllGrants distinct

/-- Whatever is written, a role of the chain holds no more than the next one and no more than it
may, and every role of the chain keeps a mask as long as not all masks are replaced by nothing.
A list of masks for different roles gives each role up to the moderator what the entries up to it
ask for, in every order, and gives the administrator and the owner everything. -/
theorem closed_and_valid (input : Option GrantsInput) (steps : List GrantsStep)
    (entries : List (Role × Nat)) (distinct : (entries.map Prod.fst).Nodup) :
    (∀ lower upper : Role, 0 ≤ lower.rank → upper.rank = lower.rank + 1 →
      bits ((GrantsStep.run (.new input) steps).getMask lower) ⊆
        bits ((GrantsStep.run (.new input) steps).getMask upper)) ∧
    (∀ role : Role, 0 ≤ role.rank →
      bits ((GrantsStep.run (.new input) steps).getMask role) ⊆
        bits (getValidationMask role)) ∧
    ((∀ step ∈ steps, step.Nonzero) → (GrantsStep.run (.new input) steps).Complete) ∧
    (∀ role : Role, 0 ≤ role.rank → role.rank ≤ 3 →
      (new (some (.tuples entries))).getMask role = requestedUpTo entries role) ∧
    (∀ other : List (Role × Nat), other.Perm entries → ∀ role,
      (new (some (.tuples other))).getMask role =
        (new (some (.tuples entries))).getMask role) ∧
    (new (some (.tuples entries))).getMask .administrator =
      maskOf Permission.all ∧
    (new (some (.tuples entries))).getMask .owner = maskOf Permission.all := by
  have sound : (GrantsStep.run (.new input) steps).Sound := GrantsStep.run_sound (new_sound input) steps
  have given : ∀ listed : List (Role × Nat), (listed.map Prod.fst).Nodup →
      ∀ role : Role, role ≤ .moderator →
        (new (some (.tuples listed))).getMask role = requestedUpTo listed role := by
    intro listed apart role low
    rw [new_tuples, OrderedMap.ofEntries_of_nodup apart]
    exact getMask_ofMasks_eq apart low
  have full : ∀ listed : List (Role × Nat), (new (some (.tuples listed))).getMask .administrator =
      maskOf Permission.all ∧ (new (some (.tuples listed))).getMask .owner = maskOf Permission.all := by
    intro listed
    rw [new_tuples]
    exact ⟨getMask_ofMasks_administrator _, getMask_ofMasks_owner _⟩
  refine ⟨fun lower upper placed next => ?_, fun role _ => sound.within role,
    GrantsStep.run_complete (new_complete input), fun role placed low => ?_, fun other same role => ?_,
    (full entries).1, (full entries).2⟩
  · exact sound.inherited (Role.le_iff_rank.mpr (.inr ⟨placed, by omega⟩))
  · exact given entries distinct role (Role.le_iff_rank.mpr (.inr ⟨placed, low⟩))
  · have apart : (other.map Prod.fst).Nodup := (same.map Prod.fst).nodup_iff.mpr distinct
    by_cases low : role ≤ .moderator
    · rw [given other apart role low, given entries distinct role low, requestedUpTo_perm same]
    · have top : role = .administrator ∨ role = .owner := by revert low; cases role <;> decide
      rcases top with rfl | rfl
      · rw [(full other).1, (full entries).1]
      · rw [(full other).2, (full entries).2]

/-- The higher role may be listed first. -/
theorem closed_and_valid_swapped :
    (new (some (.tuples [(.moderator, 1 <<< 24), (.registeredUser, 3)]))).getMask .moderator =
      1 <<< 24 ||| 3 :=
  ((closed_and_valid none [.setRoleGrants .trustedUser (.names ["chat"])]
    [(.moderator, 1 <<< 24), (.registeredUser, 3)] (by decide)).2.2.2.1
    .moderator (by decide) (by decide)).trans (by decide +kernel)

variable {grants : Grants}

/-- What the grants of a room are: masks for every role, inherited and valid, with everything for
the administrator and the owner. -/
structure Settled (grants : Grants) : Prop where
  distinct : grants.masks.keys.Nodup
  complete : grants.Complete
  sound : grants.Sound
  administrator : grants.getMask .administrator = maskOf Permission.all
  owner : grants.getMask .owner = maskOf Permission.all

/-- The administrator may do everything. -/
theorem Settled.granted_administrator (settled : grants.Settled) (permission : Permission) :
    grants.granted .administrator permission = true := by
  unfold granted
  rw [settled.administrator]
  cases permission <;> decide +kernel

theorem settled_ofMasks (entries : OrderedMap Role Nat) : (ofMasks entries).Settled where
  distinct := distinct_setRoleGrants (distinct_setRoleGrants
    (GrantsInput.setAllGrants_distinct (.map entries)) _ _) _ _
  complete := complete_setRoleGrants _ _ _
  sound := .ofMasks entries
  administrator := getMask_ofMasks_administrator entries
  owner := getMask_ofMasks_owner entries

/-- Whatever the constructor is given, its grants are ones a room can hold. -/
theorem settled_new (input : Option GrantsInput) : (new input).Settled := by
  have sound := GrantsInput.setAllGrants_sound (input.getD (.grants defaultPermissions))
  refine ⟨new_distinct input, new_complete input, new_sound input, ?_, ?_⟩
  · unfold new
    rw [(sound.setRoleGrants _ _).getMask_setRoleGrants_of_not_le _ (by decide),
      sound.getMask_setRoleGrants_all]
    decide +kernel
  · unfold new
    rw [(sound.setRoleGrants _ _).getMask_setRoleGrants_all]
    decide +kernel

/-- Whatever a role below the administrator is given, the grants are ones a room can hold. -/
theorem Settled.setRoleGrants (settled : grants.Settled) {role : Role} (low : role ≤ .moderator)
    (mask : Nat) : (grants.setRoleGrants role mask).Settled where
  distinct := distinct_setRoleGrants settled.distinct role mask
  complete := complete_setRoleGrants grants role mask
  sound := settled.sound.setRoleGrants role mask
  administrator := by
    refine bits_injective (subset_antisymm ?_ ?_)
    · exact ((settled.sound.setRoleGrants role mask).within _).trans (allowed_subset_all _)
    · have below : role < .administrator := lt_of_le_of_lt low ⟨by decide, by decide⟩
      rw [← settled.administrator]
      change grants.held _ ⊆ (grants.setRoleGrants role mask).held _
      rw [held_setRoleGrants, raise_of_lt settled.sound.inherited below]
      exact Set.subset_union_left
  owner := by
    have apart : ¬ role ≤ .owner := by revert low; cases role <;> decide
    rw [settled.sound.getMask_setRoleGrants_of_not_le mask apart, settled.owner]

theorem Settled.applyPermissionAdditions (settled : grants.Settled) (fromRevision : Nat) :
    (OpenTogetherTube.applyPermissionAdditions grants fromRevision).Settled := by
  unfold OpenTogetherTube.applyPermissionAdditions
  refine List.foldlRecOn _ _ settled fun grants settled revision _ => ?_
  dsimp only
  split
  · exact settled
  · exact settled.setRoleGrants (by decide) _

end Grants

end OpenTogetherTube
