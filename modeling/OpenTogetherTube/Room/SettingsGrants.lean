import OpenTogetherTube.Room.SettingsRequest

/-!
# A list of masks in a settings request

The tuples of a request become a `Grants` that has a mask for every role, which the room then writes
one role after the other: first the role of the first tuple that is not zero, then the others
upwards. A role written first still inherits what the roles below it held before the request, and a
role that is not listed is written the masks of the roles below it.
-/

namespace OpenTogetherTube

open Lib Lib.Handler

namespace Grants

/-- The role that the constructor writes first. -/
def firstWritten (entries : List (Role × Nat)) : Option Role :=
  ((nonzero entries).map Prod.fst).head?

/-- The chain with one role moved to the front. -/
def chainFrom (first : Role) : List Role := first :: Role.chain.erase first

/-- The pass over the chain writes roles that have a mask. -/
theorem keys_processInheiritance {grants : Grants} (complete : grants.Complete) :
    grants.processInheiritance.masks.keys = grants.masks.keys := by
  unfold processInheiritance
  refine (List.foldlRecOn (motive := fun progress : OrderedMap Role Nat × Nat =>
    progress.1.keys = grants.masks.keys ∧ Complete ⟨progress.1⟩) _ _ ⟨rfl, complete⟩
      fun progress kept role listed => ?_).1
  refine ⟨(OrderedMap.keys_set_of_has (kept.2 role listed) _).trans kept.1, fun other member => ?_⟩
  exact OrderedMap.has_set_of_has (kept.2 other member)

theorem keys_setRoleGrants {grants : Grants} (complete : grants.Complete) {role : Role}
    (listed : role ∈ Role.chain) (mask : Nat) :
    (grants.setRoleGrants role mask).masks.keys = grants.masks.keys := by
  have written : Complete ⟨grants.masks.set role (mask &&& getValidationMask role)⟩ :=
    fun other member => OrderedMap.has_set_of_has (complete other member)
  exact (keys_processInheiritance written).trans
    (OrderedMap.keys_set_of_has (complete role listed) _)

theorem keys_foldl_setRoleGrants {grants : Grants} (complete : grants.Complete)
    {entries : List (Role × Nat)} (listed : ∀ entry ∈ entries, entry.1 ∈ Role.chain) :
    (entries.foldl (fun grants entry => grants.setRoleGrants entry.1 entry.2) grants).masks.keys =
      grants.masks.keys := by
  induction entries generalizing grants with
  | nil => rfl
  | cons entry rest ih =>
      refine (ih (complete_setRoleGrants grants entry.1 entry.2)
        fun later member => listed later (List.mem_cons_of_mem entry member)).trans ?_
      exact keys_setRoleGrants complete (listed entry List.mem_cons_self) entry.2

/-- The first write puts its role in front of the chain, and later ones add no role. -/
theorem keys_foldl_first {writes : List (Role × Nat)} {role : Role}
    (first : (writes.map Prod.fst).head? = some role)
    (listed : ∀ write ∈ writes, write.1 ∈ Role.chain) :
    (writes.foldl (fun (grants : Grants) entry => grants.setRoleGrants entry.1 entry.2)
      ⟨[]⟩).masks.keys = chainFrom role := by
  cases writes with
  | nil => cases first
  | cons entry rest =>
      obtain rfl := Option.some.inj first
      refine (keys_foldl_setRoleGrants (complete_setRoleGrants ⟨[]⟩ entry.1 entry.2)
        fun later member => listed later (List.mem_cons_of_mem entry member)).trans ?_
      have placed := listed entry List.mem_cons_self
      revert placed
      cases entry.1 with
      | owner => exact fun placed => absurd placed (by decide)
      | _ => exact fun _ => rfl

/-- The roles once the administrator's mask is forced. -/
theorem keys_administrator {entries : OrderedMap Role Nat}
    (listed : ∀ entry ∈ entries, entry.1 ∈ Role.chain) (full : Nat) :
    ((setAllGrants entries).setRoleGrants .administrator full).masks.keys =
      chainFrom ((firstWritten entries).getD .administrator) := by
  have forced : (setAllGrants entries).setRoleGrants .administrator full =
      (nonzero entries ++ [(Role.administrator, full)]).foldl
        (fun (grants : Grants) entry => grants.setRoleGrants entry.1 entry.2) ⟨[]⟩ := by
    rw [setAllGrants_eq_foldl, List.foldl_append]
    rfl
  rw [forced]
  refine keys_foldl_first ?_ fun write member => ?_
  · unfold firstWritten
    cases nonzero entries <;> rfl
  · rcases List.mem_append.mp member with given | added
    · exact listed write (List.mem_filter.mp given).1
    · rw [List.mem_singleton.mp added]
      exact List.mem_of_getLast? rfl

/-- The roles in the order of the grants that the constructor makes of tuples. -/
theorem keys_ofMasks {entries : OrderedMap Role Nat}
    (listed : ∀ entry ∈ entries, entry.1 ∈ Role.chain) :
    (ofMasks entries).masks.keys =
      chainFrom ((firstWritten entries).getD .administrator) ++ [.owner] := by
  unfold ofMasks
  generalize maskOf Permission.all = full
  have chained := keys_administrator listed full
  have complete := complete_setRoleGrants (setAllGrants entries) .administrator full
  have absent : ¬ ((setAllGrants entries).setRoleGrants .administrator full).masks.has .owner = true := by
    intro present
    have member : Role.owner ∈
        ((setAllGrants entries).setRoleGrants .administrator full).masks.keys :=
      OrderedMap.mem_keys_of_has present
    rw [chained] at member
    rcases List.mem_cons.mp member with first | later
    · have placed : (firstWritten entries).getD .administrator ∈ Role.chain := by
        unfold firstWritten
        cases written : nonzero entries with
        | nil => decide
        | cons entry rest =>
            have kept : entry ∈ nonzero entries := written ▸ List.mem_cons_self
            exact listed entry (List.mem_filter.mp kept).1
      rw [← first] at placed
      exact absurd placed (by decide)
    · exact absurd (List.mem_of_mem_erase later) (by decide)
  have owned : Complete ⟨((setAllGrants entries).setRoleGrants .administrator full).masks.set .owner
      (full &&& getValidationMask .owner)⟩ := fun other member =>
    OrderedMap.has_set_of_has (complete other member)
  refine (keys_processInheiritance owned).trans ((OrderedMap.keys_set _ _ _).trans ?_)
  rw [if_neg absent, chained]

theorem firstWritten_mem {entries : List (Role × Nat)} {first : Role}
    (found : firstWritten entries = some first) :
    ∃ entry ∈ entries, entry.1 = first ∧ entry.2 ≠ 0 := by
  obtain ⟨entry, kept, rfl⟩ := List.mem_map.mp (List.mem_of_head? found)
  obtain ⟨member, counts⟩ := List.mem_filter.mp kept
  exact ⟨entry, member, rfl, of_decide_eq_true counts⟩

/-- The roles below the administrator follow one another in the order in which they are written. -/
theorem keys_precede {entries : OrderedMap Role Nat} (low : ∀ entry ∈ entries, entry.1 ≤ .moderator) :
    (ofMasks entries).masks.keys.Pairwise fun earlier later =>
      earlier ≤ .moderator → later ≤ .moderator → Precedes (firstWritten entries) earlier later := by
  have chained : ∀ entry ∈ entries, entry.1 ∈ Role.chain := fun entry member =>
    (show ∀ role : Role, role ≤ .moderator → role ∈ Role.chain by decide) entry.1 (low entry member)
  rw [keys_ofMasks chained]
  unfold Precedes
  cases found : firstWritten entries with
  | none => decide
  | some first =>
      obtain ⟨entry, member, rfl, _⟩ := firstWritten_mem found
      have placed := low entry member
      revert placed
      cases entry.1 <;> decide

end Grants

namespace Room

variable {room : Room} {entries : List (Role × Nat)}

/-- The masks that are written, in their order. -/
theorem changedMasks_precede {grants : Grants} {first : Option Role}
    (order : grants.masks.keys.Pairwise fun earlier later =>
      earlier ≤ .moderator → later ≤ .moderator → Precedes first earlier later) :
    ((room.changedMasks grants).map Prod.fst).Pairwise (Precedes first) := by
  have listed : ∀ role ∈ (room.changedMasks grants).map Prod.fst, role ≤ .moderator := by
    intro role member
    obtain ⟨entry, kept, rfl⟩ := List.mem_map.mp member
    exact ((room.mem_changedMasks).mp kept).2.1
  have kept : ((room.changedMasks grants).map Prod.fst).Sublist grants.masks.keys :=
    List.filter_sublist.map Prod.fst
  exact (order.sublist kept).imp_of_mem fun earlier later precedes =>
    precedes (listed _ earlier) (listed _ later)

variable (room) in
/-- The room's grants once the masks of a request are written. -/
def updatedGrants (grants : Grants) : Grants :=
  (room.changedMasks grants).foldl (fun grants entry => grants.setRoleGrants entry.1 entry.2)
    room.grants

/-- What the roles hold in the end: what is asked for up to them, and from the role that is written
first upwards also what the roles below that one held before. -/
theorem held_updatedGrants (settled : room.grants.Settled)
    (distinct : (entries.map Prod.fst).Nodup) (low : ∀ entry ∈ entries, entry.1 ≤ .moderator) :
    (room.updatedGrants (.new (some (.tuples entries)))).held = partialSups fun role =>
      (Grants.new (some (.tuples entries))).held role ∪ {position |
        Grants.firstWritten entries = some role ∧ ∃ lower < role, position ∈ room.grants.held lower} := by
  have built := Grants.settled_new (some (.tuples entries))
  have order : (Grants.new (some (.tuples entries))).masks.keys.Pairwise fun earlier later =>
      earlier ≤ .moderator → later ≤ .moderator →
        Precedes (Grants.firstWritten entries) earlier later := by
    rw [Grants.new_tuples, OrderedMap.ofEntries_of_nodup distinct]
    exact Grants.keys_precede low
  unfold updatedGrants
  rw [Grants.held_foldl_setRoleGrants]
  refine raiseAll_ordered settled.sound.inherited built.sound.inherited ?_
    (fun write written => ?_) fun role unwritten => ?_
  · rw [Grants.writes_roles]
    exact changedMasks_precede order
  · obtain ⟨entry, member, rfl⟩ := List.mem_map.mp written
    have stored := room.getMask_of_mem_changedMasks member
    change bits entry.2 ∩ entry.1.allowed = bits ((Grants.new (some (.tuples entries))).getMask entry.1)
    rw [← stored]
    exact Set.inter_eq_left.mpr (built.sound.within entry.1)
  · rw [Grants.writes_roles] at unwritten
    by_cases reached : role ≤ .moderator
    · change bits _ = bits _
      rw [room.getMask_of_not_mem_changedMasks _ reached unwritten]
    · have top : role = .administrator ∨ role = .owner := by revert reached; cases role <;> decide
      change bits _ = bits _
      rcases top with rfl | rfl
      · rw [settled.administrator, built.administrator]
      · rw [settled.owner, built.owner]

/-- The grants of a request are checked apart from its other settings. -/
theorem acceptsSettings_iff (settings : RoomSettings) (grants : Grants) (role : Role) :
    room.acceptsSettings { settings with grants := some grants } role = true ↔
      room.acceptsSettings { settings with grants := none } role = true ∧
        ∀ entry ∈ room.changedMasks grants, ∀ permission, rolePermission entry.1 = some permission →
          room.grants.granted role permission = true := by
  have listed : ((room.changedSettings { settings with grants := some grants }).grants.map
      fun grants => grants.getRoles.filterMap rolePermission).getD [] =
        ((room.changedMasks grants).map Prod.fst).filterMap rolePermission := by
    rw [grants_changedSettings, Option.map_some, Option.filter_some]
    split
    · rfl
    · rename_i empty
      rw [Bool.not_eq_true, Bool.not_eq_false', Grants.isEmpty, List.isEmpty_iff] at empty
      have empty : room.changedMasks grants = [] := empty
      rw [empty]
      rfl
  have checked : settingsPermissions (room.changedSettings { settings with grants := some grants }) =
      settingsPermissions (room.changedSettings { settings with grants := none }) ++
        ((room.changedMasks grants).map Prod.fst).filterMap rolePermission := by
    rw [← listed]
    unfold settingsPermissions
    rw [List.append_assoc]
    rfl
  have masks : (((room.changedMasks grants).map Prod.fst).filterMap rolePermission).all
      (room.grants.granted role) = true ↔
        ∀ entry ∈ room.changedMasks grants, ∀ permission, rolePermission entry.1 = some permission →
          room.grants.granted role permission = true := by
    rw [List.all_eq_true]
    constructor
    · intro all entry member permission needed
      exact all permission (List.mem_filterMap.mpr ⟨_, List.mem_map_of_mem member, needed⟩)
    · intro each permission there
      obtain ⟨_, listed, needed⟩ := List.mem_filterMap.mp there
      obtain ⟨entry, member, rfl⟩ := List.mem_map.mp listed
      exact each entry member permission needed
  unfold acceptsSettings
  rw [checked, List.all_append, Bool.and_eq_true, Bool.and_eq_true, Bool.and_eq_true, masks]
  change (_ ∧ _) ∧ _ ↔ (_ ∧ _) ∧ _
  rw [and_assoc, and_assoc]
  exact and_congr_right fun _ => and_comm

theorem applySettings_grants (env : Env) {settings : RoomSettings} {context : RoomRequestContext}
    {grants : Grants} (given : settings.grants = some grants)
    (accepted : room.acceptsSettings settings context.role = true) :
    ((applySettings env settings context).after room).grants = room.updatedGrants grants := by
  rcases applySettings_cases room env settings context with ⟨refused, _⟩ | ⟨_, after⟩
  · rw [accepted] at refused
    cases refused
  · rw [after]
    refine (changedSettings_grants room settings).trans ?_
    rw [given]
    rfl

end Room

namespace Grants

/-- The masks of the roles up to a role that a list leaves out. -/
def keptUpTo (grants : Grants) (entries : List (Role × Nat)) (role : Role) : Nat :=
  ((role.inheritsFrom.filter fun lower => decide (lower ∉ entries.map Prod.fst)).map
    grants.getMask).foldl (fun full mask => full ||| mask) 0

/-- What a list of masks asks a role to have: the masks of the listed roles up to it, each clipped
to what its role may hold, and the masks that the other roles up to it have. -/
def asked (grants : Grants) (entries : List (Role × Nat)) (role : Role) : Nat :=
  requestedUpTo entries role ||| keptUpTo grants entries role

/-- The other reading: for a listed role the masks of the listed roles up to it and those that the
other roles up to it have are clipped together, to what the role itself may hold. -/
def askedWhole (grants : Grants) (entries : List (Role × Nat)) (role : Role) : Nat :=
  (role.inheritsFrom.map fun lower =>
    if lower ∈ entries.map Prod.fst then
      (((entries.filter fun entry => decide (entry.1 ≤ lower)).map Prod.snd).foldl
        (fun full mask => full ||| mask) 0 ||| keptUpTo grants entries lower) &&&
          getValidationMask lower
    else grants.getMask lower).foldl (fun full mask => full ||| mask) 0

/-- Roles below the administrator are asked about, so the owner is asked for nothing. -/
theorem mem_requestedUpTo_of_low {entries : List (Role × Nat)}
    (low : ∀ entry ∈ entries, entry.1 ≤ .moderator) {role : Role} {position : Nat} :
    position ∈ bits (requestedUpTo entries role) ↔
      ∃ entry ∈ entries, entry.1 ≤ role ∧ position ∈ bits entry.2 ∩ entry.1.allowed := by
  by_cases placed : 0 ≤ role.rank
  · exact mem_requestedUpTo placed
  · have owner : role = .owner := by revert placed; cases role <;> decide
    subst owner
    refine iff_of_false (fun set => ?_) ?_
    · unfold requestedUpTo at set
      rw [List.filter_eq_nil_iff.mpr, List.map_nil, List.foldl_nil, bits_zero] at set
      · exact set
      · intro entry _
        rw [decide_eq_true_eq]
        change ¬ (0 ≤ entry.1.rank ∧ entry.1.rank ≤ -1)
        omega
    · rintro ⟨entry, member, below, _⟩
      have reached := low entry member
      revert below reached
      cases entry.1 <;> decide

theorem requestedUpTo_mono {entries : List (Role × Nat)}
    (low : ∀ entry ∈ entries, entry.1 ≤ .moderator) {lower upper : Role} (below : lower ≤ upper) :
    bits (requestedUpTo entries lower) ⊆ bits (requestedUpTo entries upper) := by
  intro position set
  obtain ⟨entry, member, reached, given⟩ := (mem_requestedUpTo_of_low low).mp set
  exact (mem_requestedUpTo_of_low low).mpr ⟨entry, member, reached.trans below, given⟩

theorem mem_keptUpTo {grants : Grants} {entries : List (Role × Nat)} {role : Role}
    {position : Nat} : position ∈ bits (keptUpTo grants entries role) ↔
      ∃ lower ≤ role, lower ∉ entries.map Prod.fst ∧ position ∈ grants.held lower := by
  unfold keptUpTo
  rw [mem_bits_foldl_or, bits_zero]
  constructor
  · rintro (nothing | ⟨mask, listed, set⟩)
    · exact nothing.elim
    · obtain ⟨lower, kept, rfl⟩ := List.mem_map.mp listed
      obtain ⟨below, unlisted⟩ := List.mem_filter.mp kept
      exact ⟨lower, below, of_decide_eq_true unlisted, set⟩
  · rintro ⟨lower, below, unlisted, set⟩
    exact .inr ⟨_, List.mem_map_of_mem (List.mem_filter.mpr ⟨below, decide_eq_true unlisted⟩), set⟩

theorem mem_askedWhole {grants : Grants} {entries : List (Role × Nat)} {role : Role}
    {position : Nat} : position ∈ bits (askedWhole grants entries role) ↔
      ∃ lower ≤ role, (lower ∈ entries.map Prod.fst ∧
          ((∃ entry ∈ entries, entry.1 ≤ lower ∧ position ∈ bits entry.2) ∨
            position ∈ bits (keptUpTo grants entries lower)) ∧ position ∈ lower.allowed) ∨
        (lower ∉ entries.map Prod.fst ∧ position ∈ grants.held lower) := by
  have whole : ∀ lower, position ∈ bits (((entries.filter fun entry => decide (entry.1 ≤ lower)).map
      Prod.snd).foldl (fun full mask => full ||| mask) 0) ↔
        ∃ entry ∈ entries, entry.1 ≤ lower ∧ position ∈ bits entry.2 := by
    intro lower
    rw [mem_bits_foldl_or, bits_zero, or_iff_right (Set.notMem_empty position)]
    constructor
    · rintro ⟨mask, listed, set⟩
      obtain ⟨entry, kept, rfl⟩ := List.mem_map.mp listed
      obtain ⟨member, below⟩ := List.mem_filter.mp kept
      exact ⟨entry, member, of_decide_eq_true below, set⟩
    · rintro ⟨entry, member, below, set⟩
      exact ⟨_, List.mem_map_of_mem (List.mem_filter.mpr ⟨member, decide_eq_true below⟩), set⟩
  have share : ∀ lower, position ∈ bits (if lower ∈ entries.map Prod.fst then
      (((entries.filter fun entry => decide (entry.1 ≤ lower)).map Prod.snd).foldl
        (fun full mask => full ||| mask) 0 ||| keptUpTo grants entries lower) &&&
          getValidationMask lower
      else grants.getMask lower) ↔
        (lower ∈ entries.map Prod.fst ∧
          ((∃ entry ∈ entries, entry.1 ≤ lower ∧ position ∈ bits entry.2) ∨
            position ∈ bits (keptUpTo grants entries lower)) ∧ position ∈ lower.allowed) ∨
        (lower ∉ entries.map Prod.fst ∧ position ∈ grants.held lower) := by
    intro lower
    by_cases listed : lower ∈ entries.map Prod.fst
    · rw [if_pos listed, bits_and, bits_or, Set.mem_inter_iff, Set.mem_union, whole]
      simp only [listed, true_and, not_true, false_and, or_false]
      rfl
    · rw [if_neg listed]
      simp only [listed, false_and, not_false_eq_true, true_and, false_or]
      rfl
  unfold askedWhole
  rw [mem_bits_foldl_or, bits_zero, or_iff_right (Set.notMem_empty position)]
  constructor
  · rintro ⟨mask, listed, set⟩
    obtain ⟨lower, below, rfl⟩ := List.mem_map.mp listed
    exact ⟨lower, below, (share lower).mp set⟩
  · rintro ⟨lower, below, held⟩
    exact ⟨_, List.mem_map_of_mem below, (share lower).mpr held⟩

end Grants

namespace Room

variable {room : Room} {entries : List (Role × Nat)}

/-- In whatever order the tuples come, the request goes through and every role has the mask it
should have. -/
def GrantsGiven (room : Room) (env : Env) (settings : RoomSettings) (entries : List (Role × Nat))
    (context : RoomRequestContext) (wanted : Role → Nat) : Prop :=
  ∀ other : List (Role × Nat), other.Perm entries →
    (applySettings env { settings with grants := some (.new (some (.tuples other))) }
      context).outcome room = .ok () ∧
    ∀ role, ((applySettings env { settings with grants := some (.new (some (.tuples other))) }
      context).after room).grants.getMask role = wanted role

/-- A role that the list leaves out has no more than is asked for up to it, and the sender may set
its mask where it has less; and a role that asks for something, with the listed roles below it, asks
for what any role below it has. -/
structure NothingLost (room : Room) (entries : List (Role × Nat)) (sender : Role) : Prop where
  unlisted : ∀ role ≤ Role.moderator, role ∉ entries.map Prod.fst →
    bits (room.grants.getMask role) ⊆ bits (Grants.requestedUpTo entries role)
  permitted : ∀ role ≤ Role.moderator, role ∉ entries.map Prod.fst →
    Grants.requestedUpTo entries role ≠ room.grants.getMask role →
      ∀ permission, rolePermission role = some permission →
        room.grants.granted sender permission = true
  lower : ∀ entry ∈ entries, entry.2 ≠ 0 → ∀ lower < entry.1,
    bits (room.grants.getMask lower) ⊆ bits (Grants.requestedUpTo entries entry.1)

/-- No listed role asks for what it may not hold and a listed role above it may, unless that role is
given it by others. -/
def NothingClipped (entries : List (Role × Nat)) : Prop :=
  ∀ entry ∈ entries, ∀ role ∈ entries.map Prod.fst, entry.1 ≤ role →
    bits (entry.2 &&& getValidationMask role) ⊆ bits (Grants.requestedUpTo entries role)

/-- A role up to the moderator has in the end what is asked for up to it, and from the role that is
written first upwards also what the roles below that one had. -/
theorem mem_updatedGrants (settled : room.grants.Settled)
    (distinct : (entries.map Prod.fst).Nodup) (low : ∀ entry ∈ entries, entry.1 ≤ .moderator)
    {role : Role} (reached : role ≤ .moderator) {position : Nat} :
    position ∈ bits ((room.updatedGrants (.new (some (.tuples entries)))).getMask role) ↔
      position ∈ bits (Grants.requestedUpTo entries role) ∨
        ∃ first, Grants.firstWritten entries = some first ∧ first ≤ role ∧
          ∃ lower < first, position ∈ bits (room.grants.getMask lower) := by
  have payload : ∀ lower ≤ role, (Grants.new (some (.tuples entries))).getMask lower =
      Grants.requestedUpTo entries lower := by
    intro lower below
    rw [Grants.new_tuples, OrderedMap.ofEntries_of_nodup distinct]
    exact Grants.getMask_ofMasks_eq distinct (below.trans reached)
  change position ∈ (room.updatedGrants (.new (some (.tuples entries)))).held role ↔ _
  rw [held_updatedGrants settled distinct low, mem_partialSups]
  constructor
  · rintro ⟨lower, below, own | ⟨leads, source, under, had⟩⟩
    · refine .inl ?_
      rw [← payload role le_rfl]
      exact (Grants.new_sound _).inherited below own
    · exact .inr ⟨lower, leads, below, source, under, had⟩
  · rintro (own | ⟨first, leads, below, source, under, had⟩)
    · refine ⟨role, le_rfl, .inl ?_⟩
      rw [← payload role le_rfl] at own
      exact own
    · exact ⟨first, below, .inr ⟨leads, source, under, had⟩⟩

/-- Whether the request goes through depends on the roles that it leaves out. -/
theorem accepts_tuples_iff {settings : RoomSettings} {sender : Role}
    (distinct : (entries.map Prod.fst).Nodup)
    (may : ∀ entry ∈ entries, ∀ permission, rolePermission entry.1 = some permission →
      room.grants.granted sender permission = true)
    (rest : room.acceptsSettings { settings with grants := none } sender = true) :
    room.acceptsSettings { settings with grants := some (.new (some (.tuples entries))) } sender =
        true ↔
      ∀ role ≤ Role.moderator, role ∉ entries.map Prod.fst →
        Grants.requestedUpTo entries role ≠ room.grants.getMask role →
          ∀ permission, rolePermission role = some permission →
            room.grants.granted sender permission = true := by
  have payload : ∀ role ≤ Role.moderator, (Grants.new (some (.tuples entries))).getMask role =
      Grants.requestedUpTo entries role := by
    intro role reached
    rw [Grants.new_tuples, OrderedMap.ofEntries_of_nodup distinct]
    exact Grants.getMask_ofMasks_eq distinct reached
  rw [acceptsSettings_iff]
  constructor
  · rintro ⟨_, checked⟩ role reached unlisted differs permission needed
    by_contra refused
    have unwritten : role ∉ (room.changedMasks (.new (some (.tuples entries)))).map Prod.fst := by
      intro written
      obtain ⟨entry, member, rfl⟩ := List.mem_map.mp written
      exact refused (checked entry member permission needed)
    refine differs ?_
    rw [← payload role reached]
    exact room.getMask_of_not_mem_changedMasks _ reached unwritten
  · intro permitted
    refine ⟨rest, fun entry member permission needed => ?_⟩
    obtain ⟨_, reached, differs⟩ := (room.mem_changedMasks).mp member
    by_cases listed : entry.1 ∈ entries.map Prod.fst
    · obtain ⟨asked, there, same⟩ := List.mem_map.mp listed
      exact may asked there permission (same ▸ needed)
    · refine permitted entry.1 reached listed ?_ permission needed
      rw [← payload entry.1 reached, room.getMask_of_mem_changedMasks member]
      exact differs

/-- In another order the masks are the same but for the role that is written first. -/
theorem mem_updatedGrants_perm (settled : room.grants.Settled)
    (distinct : (entries.map Prod.fst).Nodup) (low : ∀ entry ∈ entries, entry.1 ≤ .moderator)
    {other : List (Role × Nat)} (same : other.Perm entries) {role : Role} (reached : role ≤ .moderator)
    {position : Nat} :
    position ∈ bits ((room.updatedGrants (.new (some (.tuples other)))).getMask role) ↔
      position ∈ bits (Grants.requestedUpTo entries role) ∨
        ∃ first, Grants.firstWritten other = some first ∧ first ≤ role ∧
          ∃ lower < first, position ∈ bits (room.grants.getMask lower) := by
  rw [mem_updatedGrants settled ((same.map Prod.fst).nodup_iff.mpr distinct)
    (fun entry member => low entry (same.mem_iff.mp member)) reached, Grants.requestedUpTo_perm same]

theorem exists_perm_firstWritten {entry : Role × Nat} (member : entry ∈ entries)
    (asks : entry.2 ≠ 0) :
    ∃ other : List (Role × Nat), other.Perm entries ∧ Grants.firstWritten other = some entry.1 := by
  refine ⟨entry :: entries.erase entry, (List.perm_cons_erase member).symm, ?_⟩
  simp [Grants.firstWritten, Grants.nonzero, asks]

/-- Every order gives every role up to the moderator what is asked for and what is kept just when
nothing that is kept would be lost, and nothing that is taken away would stay. -/
theorem updatedGrants_asked_iff (settled : room.grants.Settled)
    (distinct : (entries.map Prod.fst).Nodup) (low : ∀ entry ∈ entries, entry.1 ≤ .moderator) :
    (∀ other : List (Role × Nat), other.Perm entries → ∀ role ≤ Role.moderator,
      (room.updatedGrants (.new (some (.tuples other)))).getMask role =
        room.grants.asked entries role) ↔
      (∀ role ≤ Role.moderator, role ∉ entries.map Prod.fst →
        bits (room.grants.getMask role) ⊆ bits (Grants.requestedUpTo entries role)) ∧
      ∀ entry ∈ entries, entry.2 ≠ 0 → ∀ lower < entry.1,
        bits (room.grants.getMask lower) ⊆ bits (Grants.requestedUpTo entries entry.1) := by
  have asked : ∀ {role : Role} {position : Nat}, position ∈ bits (room.grants.asked entries role) ↔
      position ∈ bits (Grants.requestedUpTo entries role) ∨
        ∃ lower ≤ role, lower ∉ entries.map Prod.fst ∧ position ∈ room.grants.held lower := by
    intro role position
    unfold Grants.asked
    rw [bits_or, Set.mem_union, Grants.mem_keptUpTo]
  constructor
  · intro given
    have unlisted : ∀ role ≤ Role.moderator, role ∉ entries.map Prod.fst →
        bits (room.grants.getMask role) ⊆ bits (Grants.requestedUpTo entries role) := by
      intro role reached absent position had
      have kept := asked.mpr (.inr ⟨role, le_rfl, absent, had⟩)
      rw [← given entries (.refl entries) role reached,
        mem_updatedGrants settled distinct low reached] at kept
      rcases kept with own | ⟨first, leads, below, lower, under, stays⟩
      · exact own
      -- what stays with the first role must be asked for, or kept by a role below the first one
      have front := (mem_updatedGrants settled distinct low (below.trans reached)).mpr
        (.inr ⟨first, leads, le_rfl, lower, under, stays⟩)
      rw [given entries (.refl entries) first (below.trans reached), asked] at front
      rcases front with own | ⟨source, beneath, missing, held⟩
      · exact Grants.requestedUpTo_mono low below own
      have strictly : source < first := by
        refine lt_of_le_of_ne beneath fun same => missing ?_
        obtain ⟨entry, member, listed, _⟩ := Grants.firstWritten_mem leads
        exact same ▸ listed ▸ List.mem_map_of_mem member
      have source_reached := beneath.trans (below.trans reached)
      have again := asked.mpr (.inr ⟨source, le_rfl, missing, held⟩)
      rw [← given entries (.refl entries) source source_reached,
        mem_updatedGrants settled distinct low source_reached] at again
      rcases again with own | ⟨other, leads', below', _⟩
      · exact Grants.requestedUpTo_mono low (beneath.trans below) own
      · obtain rfl := Option.some.inj (leads.symm.trans leads')
        exact absurd (lt_of_le_of_lt below' strictly) (lt_irrefl _)
    refine ⟨unlisted, fun entry member asks lower under position had => ?_⟩
    obtain ⟨other, same, leads⟩ := exists_perm_firstWritten member asks
    have reached := low entry member
    have stays := (mem_updatedGrants_perm settled distinct low same reached).mpr
      (.inr ⟨entry.1, leads, le_rfl, lower, under, had⟩)
    rw [given other same entry.1 reached, asked] at stays
    rcases stays with own | ⟨source, beneath, missing, held⟩
    · exact own
    · exact Grants.requestedUpTo_mono low beneath
        (unlisted source (beneath.trans reached) missing held)
  · rintro ⟨unlisted, lower⟩ other same role reached
    refine bits_injective (Set.ext fun position => ?_)
    rw [mem_updatedGrants_perm settled distinct low same reached, asked]
    refine ⟨fun holds => .inl ?_, fun holds => .inl ?_⟩
    · rcases holds with own | ⟨first, leads, below, source, under, had⟩
      · exact own
      · obtain ⟨entry, member, rfl, asks⟩ := Grants.firstWritten_mem leads
        exact Grants.requestedUpTo_mono low below
          (lower entry (same.mem_iff.mp member) asks source under had)
    · rcases holds with own | ⟨source, below, missing, held⟩
      · exact own
      · exact Grants.requestedUpTo_mono low below
          (unlisted source (below.trans reached) missing held)

/-- The administrator and the owner are asked for nothing and keep what they have. -/
theorem asked_of_top (settled : room.grants.Settled) {role : Role} (top : ¬ role ≤ .moderator)
    (low : ∀ entry ∈ entries, entry.1 ≤ .moderator) :
    room.grants.asked entries role = room.grants.getMask role := by
  refine bits_injective (subset_antisymm (fun position holds => ?_) fun position had => ?_)
  · unfold Grants.asked at holds
    rw [bits_or, Set.mem_union, Grants.mem_requestedUpTo_of_low low, Grants.mem_keptUpTo] at holds
    rcases holds with ⟨entry, member, below, _, may⟩ | ⟨lower, below, _, held⟩
    · have full : role = .administrator := by
        have reached := low entry member
        revert top reached below
        cases entry.1 <;> cases role <;> decide
      rw [full, settled.administrator]
      exact Grants.allowed_subset_all entry.1 may
    · exact settled.sound.inherited below held
  · unfold Grants.asked
    rw [bits_or, Set.mem_union, Grants.mem_keptUpTo]
    refine .inr ⟨role, le_rfl, fun listed => top ?_, had⟩
    obtain ⟨entry, member, same⟩ := List.mem_map.mp listed
    exact same ▸ low entry member

/-- What every order gives, for a request that is let through apart from its grants. -/
theorem grantsGiven_iff (env : Env) (settled : room.grants.Settled) {settings : RoomSettings}
    {context : RoomRequestContext} (distinct : (entries.map Prod.fst).Nodup)
    (may : ∀ entry ∈ entries, ∀ permission, rolePermission entry.1 = some permission →
      room.grants.granted context.role permission = true)
    (rest : room.acceptsSettings { settings with grants := none } context.role = true)
    {wanted : Role → Nat}
    (kept : ∀ role, ¬ role ≤ .moderator → wanted role = room.grants.getMask role) :
    room.GrantsGiven env settings entries context wanted ↔
      (∀ role ≤ Role.moderator, role ∉ entries.map Prod.fst →
        Grants.requestedUpTo entries role ≠ room.grants.getMask role →
          ∀ permission, rolePermission role = some permission →
            room.grants.granted context.role permission = true) ∧
      ∀ other : List (Role × Nat), other.Perm entries → ∀ role ≤ Role.moderator,
        (room.updatedGrants (.new (some (.tuples other)))).getMask role = wanted role := by
  have accepts : ∀ other : List (Role × Nat), other.Perm entries →
      (room.acceptsSettings { settings with grants := some (.new (some (.tuples other))) }
        context.role = true ↔ _) := fun other same =>
    accepts_tuples_iff ((same.map Prod.fst).nodup_iff.mpr distinct)
      (fun entry member => may entry (same.mem_iff.mp member)) rest
  have roles : ∀ other : List (Role × Nat), other.Perm entries → ∀ role,
      role ∉ other.map Prod.fst ↔ role ∉ entries.map Prod.fst := fun other same role =>
    not_congr (same.map Prod.fst).mem_iff
  unfold GrantsGiven
  constructor
  · intro given
    have accepted := (applySettings_outcome room env _ context).mp (given entries (.refl entries)).1
    refine ⟨(accepts entries (.refl entries)).mp accepted, fun other same role _ => ?_⟩
    have masks := (given other same).2 role
    rwa [applySettings_grants env rfl
      ((applySettings_outcome room env _ context).mp (given other same).1)] at masks
  · rintro ⟨permitted, masks⟩ other same
    have accepted : room.acceptsSettings
        { settings with grants := some (.new (some (.tuples other))) } context.role = true := by
      refine (accepts other same).mpr fun role reached absent differs => ?_
      rw [Grants.requestedUpTo_perm same] at differs
      exact permitted role reached ((roles other same role).mp absent) differs
    refine ⟨(applySettings_outcome room env _ context).mpr accepted, fun role => ?_⟩
    rw [applySettings_grants env rfl accepted]
    by_cases reached : role ≤ .moderator
    · exact masks other same role reached
    · rw [kept role reached]
      refine room.getMask_unwritten settled.sound.inherited settled.administrator _ fun written => ?_
      obtain ⟨entry, member, same⟩ := List.mem_map.mp written
      exact reached (same ▸ ((room.mem_changedMasks).mp member).2.1)

theorem askedWhole_eq (low : ∀ entry ∈ entries, entry.1 ≤ .moderator)
    (unclipped : NothingClipped entries) (role : Role) :
    room.grants.askedWhole entries role = room.grants.asked entries role := by
  refine bits_injective (Set.ext fun position => ?_)
  unfold Grants.asked
  rw [Grants.mem_askedWhole, bits_or, Set.mem_union, Grants.mem_keptUpTo]
  constructor
  · rintro ⟨lower, below, ⟨listed, whole, may⟩ | ⟨absent, held⟩⟩
    · rcases whole with ⟨entry, member, reached, set⟩ | kept
      · refine .inl (Grants.requestedUpTo_mono low below (unclipped entry member lower listed reached ?_))
        rw [bits_and]
        exact ⟨set, may⟩
      · obtain ⟨source, beneath, absent, held⟩ := Grants.mem_keptUpTo.mp kept
        exact .inr ⟨source, beneath.trans below, absent, held⟩
    · exact .inr ⟨lower, below, absent, held⟩
  · rintro (own | ⟨lower, below, absent, held⟩)
    · obtain ⟨entry, member, reached, set, may⟩ := (Grants.mem_requestedUpTo_of_low low).mp own
      exact ⟨entry.1, reached, .inl ⟨List.mem_map_of_mem member, .inl ⟨entry, member, le_rfl, set⟩, may⟩⟩
    · exact ⟨lower, below, .inr ⟨absent, held⟩⟩

/-- The other reading too leaves the administrator and the owner what they have. -/
theorem askedWhole_of_top (settled : room.grants.Settled) {role : Role} (top : ¬ role ≤ .moderator)
    (low : ∀ entry ∈ entries, entry.1 ≤ .moderator) :
    room.grants.askedWhole entries role = room.grants.getMask role := by
  have absent : role ∉ entries.map Prod.fst := fun listed => by
    obtain ⟨entry, member, same⟩ := List.mem_map.mp listed
    exact top (same ▸ low entry member)
  refine bits_injective (subset_antisymm (fun position holds => ?_) fun position had => ?_)
  · obtain ⟨lower, below, ⟨listed, _, may⟩ | ⟨_, held⟩⟩ := Grants.mem_askedWhole.mp holds
    · obtain ⟨entry, member, rfl⟩ := List.mem_map.mp listed
      have full : role = .administrator := by
        have reached := low entry member
        revert top reached below
        cases entry.1 <;> cases role <;> decide
      rw [full, settled.administrator]
      exact Grants.allowed_subset_all entry.1 may
    · exact settled.sound.inherited below held
  · exact Grants.mem_askedWhole.mpr ⟨role, le_rfl, .inr ⟨absent, had⟩⟩

/-- If every order gives what the other reading asks for, nothing is clipped. -/
theorem nothingClipped_of_given (settled : room.grants.Settled)
    (distinct : (entries.map Prod.fst).Nodup) (low : ∀ entry ∈ entries, entry.1 ≤ .moderator)
    (given : ∀ other : List (Role × Nat), other.Perm entries → ∀ role ≤ Role.moderator,
      (room.updatedGrants (.new (some (.tuples other)))).getMask role =
        room.grants.askedWhole entries role) : NothingClipped entries := by
  intro entry member role listed below position clipped
  rw [bits_and] at clipped
  obtain ⟨listing, there, rfl⟩ := List.mem_map.mp listed
  have asks : entry.2 ≠ 0 := fun zero => by
    rw [zero, bits_zero] at clipped
    exact clipped.1
  obtain ⟨other, same, leads⟩ := exists_perm_firstWritten member asks
  have holds : position ∈ bits (room.grants.askedWhole entries listing.1) :=
    Grants.mem_askedWhole.mpr ⟨listing.1, le_rfl,
      .inl ⟨listed, .inl ⟨entry, member, below, clipped.1⟩, clipped.2⟩⟩
  rw [← given other same listing.1 (low listing there),
    mem_updatedGrants_perm settled distinct low same (low listing there)] at holds
  rcases holds with own | ⟨first, leads', _, lower, under, had⟩
  · exact own
  · obtain rfl := Option.some.inj (leads.symm.trans leads')
    have may : position ∈ entry.1.allowed :=
      Role.allowed_monotone under.le (settled.sound.within lower had)
    exact Grants.requestedUpTo_mono low below
      ((Grants.mem_requestedUpTo_of_low low).mpr ⟨entry, member, le_rfl, clipped.1, may⟩)

/-- For a sender who may set the masks of all listed roles: a list of masks for different roles gives
every role what it asks for, in every order, just when nothing is lost; and with the masks clipped
as a whole just when moreover nothing is clipped. -/
theorem settings_give_asked_iff (env : Env) (settled : room.grants.Settled) (settings : RoomSettings)
    (context : RoomRequestContext) (distinct : (entries.map Prod.fst).Nodup)
    (low : ∀ entry ∈ entries, entry.1 ≤ .moderator)
    (may : ∀ entry ∈ entries, ∀ permission, rolePermission entry.1 = some permission →
      room.grants.granted context.role permission = true)
    (rest : room.acceptsSettings { settings with grants := none } context.role = true) :
    (room.GrantsGiven env settings entries context (room.grants.asked entries) ↔
      room.NothingLost entries context.role) ∧
    (room.GrantsGiven env settings entries context (room.grants.askedWhole entries) ↔
      room.NothingLost entries context.role ∧ NothingClipped entries) := by
  have clipped_apart : room.GrantsGiven env settings entries context (room.grants.asked entries) ↔
      room.NothingLost entries context.role := by
    rw [grantsGiven_iff env settled distinct may rest fun role top => asked_of_top settled top low,
      updatedGrants_asked_iff settled distinct low]
    exact ⟨fun ⟨permitted, unlisted, lower⟩ => ⟨unlisted, permitted, lower⟩,
      fun lost => ⟨lost.permitted, lost.unlisted, lost.lower⟩⟩
  refine ⟨clipped_apart, ?_⟩
  have same : NothingClipped entries →
      room.grants.askedWhole entries = room.grants.asked entries := fun unclipped =>
    funext (askedWhole_eq low unclipped)
  constructor
  · intro given
    have masks := ((grantsGiven_iff env settled distinct may rest fun role top =>
      askedWhole_of_top settled top low).mp given).2
    have unclipped := nothingClipped_of_given settled distinct low masks
    rw [same unclipped] at given
    exact ⟨clipped_apart.mp given, unclipped⟩
  · rintro ⟨lost, unclipped⟩
    rw [same unclipped]
    exact clipped_apart.mpr lost

/-- An administrator of a new room gives every role everything it may hold. -/
theorem settings_give_everything :
    (Room.new {} 0).GrantsGiven { now := 0 } {} [(.moderator, 2 ^ 29 - 1), (.trustedUser, 2 ^ 29 - 1),
      (.registeredUser, 2 ^ 29 - 1), (.unregisteredUser, 2 ^ 29 - 1)] { role := .administrator }
      ((Room.new {} 0).grants.asked [(.moderator, 2 ^ 29 - 1), (.trustedUser, 2 ^ 29 - 1),
        (.registeredUser, 2 ^ 29 - 1), (.unregisteredUser, 2 ^ 29 - 1)]) := by
  refine (settings_give_asked_iff { now := 0 } (settled_new {} 0 nofun) {} { role := .administrator }
    (by decide) (by decide) (fun _ _ permission _ => (settled_new {} 0 nofun).granted_administrator
      permission) (by decide +kernel)).1.mpr ⟨?_, ?_, ?_⟩
  · intro role reached absent
    revert reached absent
    cases role <;> decide
  · intro role reached absent
    revert reached absent
    cases role <;> decide
  · intro entry member asks lower under
    have held := (settled_new {} 0 nofun).sound.within lower
    refine held.trans ((Role.allowed_monotone under.le).trans (bits_subset_bits.mpr ?_))
    clear held under lower asks
    revert entry
    decide +kernel

/-- An administrator of a new room lists the registered users only, and the guests lose everything
they may do. -/
theorem settings_drop_unlisted :
    (∀ permission, rolePermission .registeredUser = some permission →
      (Room.new {} 0).grants.granted .administrator permission = true) ∧
    ¬ (Room.new {} 0).GrantsGiven { now := 0 } {} [(.registeredUser, 3)] { role := .administrator }
      ((Room.new {} 0).grants.asked [(.registeredUser, 3)]) ∧
    ¬ (Room.new {} 0).GrantsGiven { now := 0 } {} [(.registeredUser, 3)] { role := .administrator }
      ((Room.new {} 0).grants.askedWhole [(.registeredUser, 3)]) := by
  refine ⟨fun permission needed => ?_, fun given => ?_, fun given => ?_⟩
  · obtain rfl := Option.some.inj needed
    decide +kernel
  · have guests := (given [(.registeredUser, 3)] (.refl _)).2 .unregisteredUser
    revert guests
    decide +kernel
  · have guests := (given [(.registeredUser, 3)] (.refl _)).2 .unregisteredUser
    revert guests
    decide +kernel

end Room

end OpenTogetherTube
