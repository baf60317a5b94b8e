import Mathlib.Tactic.IntervalCases
import Mathlib.Tactic.Tauto
import OpenTogetherTube.Panel.Relinking

/-!
# What filtering by groups keeps

For any tree and any groups a kept node ends up with its kept children and, once more, with
every kept node of which it is the nearest kept ancestor. From that it follows when the
forest holds each kept node once.
-/

namespace OpenTogetherTube.Panel

open Lib

section Groups

variable {tree : HierarchyNode} {groups : List String} {address first : Address} {group : String}

theorem isKept_iff :
    isKept tree groups address = true ↔ ∃ group ∈ groups, groupAt tree address = some group := by
  unfold isKept
  cases groupAt tree address with
  | none => simp
  | some own => simp

theorem isSome_of_isKept (kept : isKept tree groups address = true) :
    (nodeAt tree address).isSome := by
  obtain ⟨group, -, found⟩ := isKept_iff.mp kept
  obtain ⟨node, held, -⟩ := Option.map_eq_some_iff.mp found
  rw [held]
  rfl

theorem mem_validNodes :
    address ∈ validNodes tree groups ↔ isKept tree groups address = true := by
  unfold validNodes
  rw [List.mem_filter, mem_descendants]
  exact ⟨And.right, fun kept => ⟨isSome_of_isKept kept, kept⟩⟩

theorem validNodes_nodup : (validNodes tree groups).Nodup :=
  (descendants_levels tree).nodup.filter _

theorem validNodes_ordered :
    (validNodes tree groups).Pairwise fun earlier later => earlier.length ≤ later.length :=
  (descendants_levels tree).ordered.filter _

/-- The first kept node of the tree. -/
structure FirstKept (tree : HierarchyNode) (groups : List String) (first : Address) : Prop where
  split : ∃ before after, descendants tree = before ++ first :: after ∧
    ∀ earlier ∈ before, isKept tree groups earlier = false
  kept : isKept tree groups first = true

theorem exists_firstKept (kept : isKept tree groups address = true) :
    ∃ first, FirstKept tree groups first := by
  have listed : address ∈ descendants tree := mem_descendants.mpr (isSome_of_isKept kept)
  have found : ((descendants tree).find? (isKept tree groups)).isSome :=
    List.find?_isSome.mpr ⟨address, listed, kept⟩
  obtain ⟨first, found⟩ := Option.isSome_iff_exists.mp found
  obtain ⟨keeps, before, after, split, none_⟩ := List.find?_eq_some_iff_append.mp found
  exact ⟨first, ⟨before, after, split, fun earlier listed => by simpa using none_ earlier listed⟩,
    keeps⟩

/-- No kept node lies higher than the first. -/
theorem FirstKept.length_le (isFirst : FirstKept tree groups first)
    (kept : isKept tree groups address = true) : first.length ≤ address.length := by
  obtain ⟨before, after, split, none_⟩ := isFirst.split
  have listed : address ∈ descendants tree := mem_descendants.mpr (isSome_of_isKept kept)
  have ordered := (descendants_levels tree).ordered
  rw [split] at listed ordered
  rcases List.mem_append.mp listed with earlier | later
  · exact absurd (kept.symm.trans (none_ address earlier)) (by decide)
  · rcases List.mem_cons.mp later with rfl | later
    · exact le_rfl
    · exact (List.pairwise_cons.mp (List.pairwise_append.mp ordered).2.1).1 address later

theorem exists_addAll (set : OrderedSet String) (members : List String) :
    ∃ added, set.addAll members = set ++ added := by
  induction members generalizing set with
  | nil => exact ⟨[], (List.append_nil set).symm⟩
  | cons member rest ih =>
      obtain ⟨added, all⟩ := ih (set.add member)
      unfold OrderedSet.addAll at all ⊢
      rw [List.foldl_cons, all]
      unfold OrderedSet.add
      split
      · exact ⟨added, rfl⟩
      · exact ⟨member :: added, by simp⟩

theorem FirstKept.traverseGroups_eq (isFirst : FirstKept tree groups first)
    (own : groupAt tree first = some group) :
    ∃ before after, traverseGroups tree = before ++ group :: after ∧
      ∀ earlier ∈ before, earlier ∉ groups := by
  obtain ⟨before, after, split, none_⟩ := isFirst.split
  have member : group ∈ groups := by
    obtain ⟨other, listed, same⟩ := isKept_iff.mp isFirst.kept
    rwa [Option.some.inj (own.symm.trans same)]
  have others : ∀ earlier ∈ OrderedSet.addAll [] (before.filterMap (groupAt tree)),
      earlier ∉ groups := by
    intro earlier listed inside
    rcases OrderedSet.mem_addAll.mp listed with empty | met
    · cases empty
    · obtain ⟨address, among, found⟩ := List.mem_filterMap.mp met
      have kept := isKept_iff.mpr ⟨earlier, inside, found⟩
      exact absurd (kept.symm.trans (none_ address among)) (by decide)
  have new : group ∉ OrderedSet.addAll [] (before.filterMap (groupAt tree)) := fun listed =>
    others group listed member
  obtain ⟨added, all⟩ := exists_addAll
    (OrderedSet.addAll [] (before.filterMap (groupAt tree)) ++ [group])
    (after.filterMap (groupAt tree))
  refine ⟨OrderedSet.addAll [] (before.filterMap (groupAt tree)), added, ?_, others⟩
  unfold traverseGroups
  rw [split, List.filterMap_append, List.filterMap_cons_some own]
  rw [List.append_assoc, List.singleton_append] at all
  rw [← all]
  unfold OrderedSet.addAll
  rw [List.foldl_append, List.foldl_cons]
  congr 1
  exact if_neg new

theorem FirstKept.head?_sortedGroups (isFirst : FirstKept tree groups first)
    (own : groupAt tree first = some group)
    (present : ∀ other ∈ groups, ∃ address, groupAt tree address = some other) :
    (sortedGroups tree groups).head? = some group := by
  obtain ⟨before, after, all, others⟩ := isFirst.traverseGroups_eq own
  have member : group ∈ groups := by
    obtain ⟨other, listed, same⟩ := isKept_iff.mp isFirst.kept
    rwa [Option.some.inj (own.symm.trans same)]
  have place : ∀ other ∈ groups, indexOf (traverseGroups tree) other =
      (before.length + (group :: after).idxOf other : Nat) := by
    intro other listed
    obtain ⟨address, found⟩ := present other listed
    have met : other ∈ traverseGroups tree := by
      refine OrderedSet.mem_addAll.mpr (Or.inr (List.mem_filterMap.mpr ⟨address, ?_, found⟩))
      exact mem_descendants.mpr (isSome_of_isKept (isKept_iff.mpr ⟨other, listed, found⟩))
    unfold indexOf
    rw [if_pos met, all, List.idxOf_append_of_notMem fun earlier => others other earlier listed]
  have sorted : (sortedGroups tree groups).Pairwise fun a b =>
      indexOf (traverseGroups tree) a ≤ indexOf (traverseGroups tree) b :=
    List.pairwise_insertionSort _ groups
  have listed : group ∈ sortedGroups tree groups := (List.mem_insertionSort _).mpr member
  cases groupsEq : sortedGroups tree groups with
  | nil =>
      rw [groupsEq] at listed
      cases listed
  | cons head rest =>
      rw [groupsEq] at listed sorted
      have headMember : head ∈ groups := (List.mem_insertionSort _).mp
        (show head ∈ sortedGroups tree groups from groupsEq ▸ List.mem_cons_self)
      rcases List.mem_cons.mp listed with rfl | later
      · rfl
      · have less := (List.pairwise_cons.mp sorted).1 group later
        rw [place head headMember, place group member, List.idxOf_cons_self] at less
        have zero : (group :: after).idxOf head = 0 := by omega
        have same : head = group := by
          by_contra other
          rw [List.idxOf_cons_ne _ (Ne.symm other)] at zero
          cases zero
        rw [same]
        rfl

end Groups

/-- The nodes of a forest, as often as they are met on the way down `children`. -/
def Links.occurrences (links : Links) : Nat → Address → List Address
  | 0, node => [node]
  | depth + 1, node => node :: (links.childrenOf node).flatMap (links.occurrences depth)

/-- The nodes of the forest that is returned. It is no higher than the tree. -/
def Filtered.nodes (filtered : Filtered) (tree : HierarchyNode) : List Address :=
  filtered.roots.flatMap (filtered.links.occurrences tree.height)

/-- The forest holds the kept nodes and no others, each once: below its nearest kept ancestor,
or among the roots, which are on the topmost kept level. -/
structure KeepsTree (tree : HierarchyNode) (groups : List String) (filtered : Filtered) : Prop where
  once : (filtered.nodes tree).Nodup
  mem_iff : ∀ address, address ∈ filtered.nodes tree ↔ isKept tree groups address = true
  child : ∀ address parent, isKept tree groups address = true →
    nearestKept (isKept tree groups) address = some parent →
      (filtered.links.childrenOf parent).count address = 1 ∧
        filtered.links.parent address = some parent
  root : ∀ address, address ∈ filtered.roots ↔ isKept tree groups address = true ∧
    nearestKept (isKept tree groups) address = none
  topmost : ∀ root ∈ filtered.roots, ∀ address, isKept tree groups address = true →
    root.length ≤ address.length

/-- Each level of the tree has one group. -/
def OneGroupPerLevel (tree : HierarchyNode) (levels : Nat → String) : Prop :=
  ∀ address group, groupAt tree address = some group → group = levels address.length

/-- The tree has nodes on a level, and they are to be kept. -/
def LevelKept (tree : HierarchyNode) (groups : List String) (levels : Nat → String)
    (depth : Nat) : Prop :=
  levels depth ∈ groups ∧ ∃ address, (nodeAt tree address).isSome ∧ address.length = depth

/-- The kept levels lie apart, and the group of the topmost one has a name of its own. -/
structure LevelsApart (tree : HierarchyNode) (groups : List String) (levels : Nat → String) :
    Prop where
  apart : ∀ depth, LevelKept tree groups levels depth → ¬ LevelKept tree groups levels (depth + 1)
  single : ∀ top, LevelKept tree groups levels top → (∀ depth < top, levels depth ∉ groups) →
    ∀ deeper, top < deeper → LevelKept tree groups levels deeper → levels deeper ≠ levels top
  named : ∀ top, LevelKept tree groups levels top → (∀ depth < top, levels depth ∉ groups) →
    levels top ≠ ""

section Levels

variable {tree : HierarchyNode} {groups : List String} {levels : Nat → String}
  {address other first : Address}

theorem isSome_of_suffix (above : other <:+ address) (there : (nodeAt tree address).isSome) :
    (nodeAt tree other).isSome := by
  induction address with
  | nil =>
      rw [List.suffix_nil.mp above]
      exact there
  | cons index parent ih =>
      rcases List.suffix_cons_iff.mp above with rfl | above
      · exact there
      · exact ih above (Option.isSome_of_isSome_bind there)

theorem isKept_iff_level (uniform : OneGroupPerLevel tree levels) :
    isKept tree groups address = true ↔
      (nodeAt tree address).isSome ∧ levels address.length ∈ groups := by
  rw [isKept_iff]
  constructor
  · rintro ⟨group, listed, found⟩
    have kept := isSome_of_isKept (isKept_iff.mpr ⟨group, listed, found⟩)
    exact ⟨kept, uniform address group found ▸ listed⟩
  · rintro ⟨there, listed⟩
    obtain ⟨node, found⟩ := Option.isSome_iff_exists.mp there
    have own : groupAt tree address = some node.data.group := by rw [groupAt, found, Option.map_some]
    exact ⟨_, uniform address _ own ▸ listed, own⟩

theorem levelKept_of_isKept (uniform : OneGroupPerLevel tree levels)
    (kept : isKept tree groups address = true) : LevelKept tree groups levels address.length :=
  ⟨((isKept_iff_level uniform).mp kept).2, address, isSome_of_isKept kept, rfl⟩

variable (isFirst : FirstKept tree groups first)

include isFirst

theorem FirstKept.topmost
    (uniform : OneGroupPerLevel tree levels) : ∀ depth < first.length, levels depth ∉ groups := by
  intro depth higher listed
  have above : first.drop (first.length - depth) <:+ first := List.drop_suffix _ _
  have length : (first.drop (first.length - depth)).length = depth := by
    rw [List.length_drop]
    omega
  have kept : isKept tree groups (first.drop (first.length - depth)) = true :=
    (isKept_iff_level uniform).mpr
      ⟨isSome_of_suffix above (isSome_of_isKept isFirst.kept), length.symm ▸ listed⟩
  have low := isFirst.length_le kept
  omega

theorem FirstKept.eq_of_topmost
    (uniform : OneGroupPerLevel tree levels) {top : Nat} (kept : LevelKept tree groups levels top)
    (highest : ∀ depth < top, levels depth ∉ groups) : top = first.length := by
  obtain ⟨listed, address, there, rfl⟩ := kept
  have low := isFirst.length_le ((isKept_iff_level uniform).mpr ⟨there, listed⟩)
  by_contra apart
  exact highest first.length (by omega) ((isKept_iff_level uniform).mp isFirst.kept).2

theorem FirstKept.exists_ancestor
    (uniform : OneGroupPerLevel tree levels) (there : (nodeAt tree address).isSome)
    (deep : first.length ≤ address.length) :
    ∃ root, root <:+ address ∧ root.length = first.length ∧ isKept tree groups root = true := by
  have length : (address.drop (address.length - first.length)).length = first.length := by
    rw [List.length_drop]
    omega
  refine ⟨_, List.drop_suffix _ _, length, (isKept_iff_level uniform).mpr ⟨?_, ?_⟩⟩
  · exact isSome_of_suffix (List.drop_suffix _ _) there
  · rw [length]
    exact ((isKept_iff_level uniform).mp isFirst.kept).2

/-- The nodes without a kept ancestor are those of the topmost kept level. -/
theorem FirstKept.nearestKept_eq_none_iff
    (uniform : OneGroupPerLevel tree levels) (kept : isKept tree groups address = true) :
    nearestKept (isKept tree groups) address = none ↔ address.length = first.length := by
  have deep := isFirst.length_le kept
  constructor
  · intro nearest
    obtain ⟨root, above, length, keeps⟩ :=
      isFirst.exists_ancestor uniform (isSome_of_isKept kept) deep
    by_contra apart
    obtain ⟨parent, found, -⟩ := exists_nearestKept keeps above fun same => apart (same ▸ length)
    rw [nearest] at found
    cases found
  · intro level
    cases nearest : nearestKept (isKept tree groups) address with
    | none => rfl
    | some parent =>
        obtain ⟨keeps, -, shorter⟩ := nearestKept_spec nearest
        have low := isFirst.length_le keeps
        omega

end Levels

section Forest

variable {tree : HierarchyNode} {groups : List String} {levels : Nat → String}
  {address parent first : Address} {group : String}

theorem filterTreeGroups_eq (head : (sortedGroups tree groups).head? = some group)
    (named : group ≠ "") :
    filterTreeGroups tree groups =
      ⟨(validNodes tree groups).filter fun node => decide (groupAt tree node = some group),
        relinked tree (isKept tree groups) (validNodes tree groups)⟩ := by
  unfold filterTreeGroups
  rw [head]
  dsimp only
  rw [if_neg named]
  congr 1
  have loop := @foldl_relink tree (isKept tree groups) [] (validNodes tree groups)
    validNodes_nodup (fun node listed => mem_validNodes.mp listed) validNodes_ordered
  rwa [relinked_nil] at loop

/-- The children of a kept node: those that were children and are kept, and then all kept
nodes of which it is the nearest kept ancestor. -/
theorem childrenOf_relinked (kept : isKept tree groups parent = true) :
    (relinked tree (isKept tree groups) (validNodes tree groups)).childrenOf parent =
      ((linksOf tree).childrenOf parent).filter (isKept tree groups) ++
        (validNodes tree groups).filter fun node =>
          decide (nearestKept (isKept tree groups) node = some parent) := by
  have listed : parent ∈ validNodes tree groups := mem_validNodes.mpr kept
  unfold Links.childrenOf relinked
  dsimp only
  cases children : (linksOf tree).children parent with
  | some children => simp [listed]
  | none =>
      have none_ : (validNodes tree groups).filter (fun node =>
          decide (nearestKept (isKept tree groups) node = some parent)) = [] := by
        refine List.filter_eq_nil_iff.mpr fun node among same => ?_
        -- The next node on the way down would be a child.
        obtain ⟨-, ⟨way, rfl⟩, shorter⟩ := nearestKept_spec (of_decide_eq_true same)
        have there := isSome_of_isKept (mem_validNodes.mp among)
        obtain ⟨between, index, rfl⟩ : ∃ between index, way = between ++ [index] := by
          refine ⟨way.dropLast, way.getLast ?_, (List.dropLast_append_getLast ?_).symm⟩ <;>
            (rintro rfl; simp at shorter)
        have child : index :: parent ∈ (linksOf tree).childrenOf parent := by
          refine mem_childrenOf_linksOf.mpr ⟨index, rfl, isSome_of_suffix ⟨between, ?_⟩ there⟩
          simp
        simp [Links.childrenOf, children] at child
      simp [none_]

/-- With the kept levels apart only the second part is left. -/
theorem childrenOf_apart (uniform : OneGroupPerLevel tree levels)
    (apart : LevelsApart tree groups levels) (kept : isKept tree groups parent = true) :
    (relinked tree (isKept tree groups) (validNodes tree groups)).childrenOf parent =
      (validNodes tree groups).filter fun node =>
        decide (nearestKept (isKept tree groups) node = some parent) := by
  have dropped : ((linksOf tree).childrenOf parent).filter (isKept tree groups) = [] := by
    refine List.filter_eq_nil_iff.mpr fun child listed keeps => ?_
    obtain ⟨index, rfl, there⟩ := mem_childrenOf_linksOf.mp listed
    exact apart.apart parent.length (levelKept_of_isKept uniform kept)
      (levelKept_of_isKept uniform keeps)
  rw [childrenOf_relinked kept, dropped, List.nil_append]

variable {links : Links} {kept : Address → Bool} {nodes : List Address}

/-- The children of a kept node are the nodes of which it is the nearest kept ancestor. -/
structure Nested (kept : Address → Bool) (nodes : List Address) (links : Links) : Prop where
  mem_nodes : ∀ address, address ∈ nodes → kept address = true
  nodup : nodes.Nodup
  children : ∀ parent, kept parent = true → links.childrenOf parent =
    nodes.filter fun node => decide (nearestKept kept node = some parent)

variable (nested : Nested kept nodes links)

include nested

theorem Nested.mem_childrenOf (keeps : kept parent = true) :
    address ∈ links.childrenOf parent ↔
      address ∈ nodes ∧ nearestKept kept address = some parent := by
  rw [nested.children parent keeps, List.mem_filter, decide_eq_true_eq]

/-- Every kept node below another is below one of its children. -/
theorem Nested.exists_child (keeps : kept parent = true)
    (closed : ∀ address ∈ nodes, ∀ ancestor, nearestKept kept address = some ancestor →
      ancestor ∈ nodes)
    (listed : address ∈ nodes) (above : parent <:+ address) (proper : parent ≠ address) :
    ∃ child ∈ links.childrenOf parent, child <:+ address := by
  induction deep : address.length using Nat.strongRecOn generalizing address with
  | _ depth ih =>
      subst deep
      obtain ⟨nearest, found, between⟩ := exists_nearestKept keeps above proper
      by_cases same : parent = nearest
      · subst same
        exact ⟨address, (nested.mem_childrenOf keeps).mpr ⟨listed, found⟩, List.suffix_rfl⟩
      · obtain ⟨-, higher, shorter⟩ := nearestKept_spec found
        obtain ⟨child, inside, over_⟩ := ih nearest.length shorter
          (closed address listed nearest found) between same rfl
        exact ⟨child, inside, over_.trans higher⟩

/-- Two children of one node have no node below both. -/
theorem Nested.child_unique (keeps : kept parent = true)
    {one other : Address} (first : one ∈ links.childrenOf parent)
    (second : other ∈ links.childrenOf parent) (above : one <:+ address)
    (aboveToo : other <:+ address) : one = other := by
  -- The higher of the two would be a nearer kept ancestor of the other.
  have lower : ∀ high low : Address, high ∈ links.childrenOf parent →
      low ∈ links.childrenOf parent → high <:+ low → high = low := by
    intro high low highChild lowChild ordered
    by_contra apart
    obtain ⟨highListed, highNearest⟩ := (nested.mem_childrenOf keeps).mp highChild
    obtain ⟨-, lowNearest⟩ := (nested.mem_childrenOf keeps).mp lowChild
    obtain ⟨nearest, found, between⟩ :=
      exists_nearestKept (nested.mem_nodes high highListed) ordered apart
    rw [lowNearest] at found
    obtain rfl := Option.some.inj found
    have shorter := (nearestKept_spec highNearest).2.2
    have longer := between.length_le
    omega
  rcases List.suffix_or_suffix_of_suffix above aboveToo with ordered | ordered
  · exact lower one other first second ordered
  · exact (lower other one second first ordered).symm

/-- On the way down from a kept node each kept node below it is met once. -/
theorem Nested.occurrences_spec
    (closed : ∀ address ∈ nodes, ∀ ancestor, nearestKept kept address = some ancestor →
      ancestor ∈ nodes)
    {depth : Nat} (listed : parent ∈ nodes)
    (bound : ∀ address ∈ nodes, parent <:+ address → address.length ≤ parent.length + depth) :
    (links.occurrences depth parent).Nodup ∧
      ∀ address, address ∈ links.occurrences depth parent ↔ address ∈ nodes ∧ parent <:+ address := by
  induction depth generalizing parent with
  | zero =>
      refine ⟨List.nodup_singleton _, fun address => ?_⟩
      rw [Links.occurrences, List.mem_singleton]
      constructor
      · rintro rfl
        exact ⟨listed, List.suffix_rfl⟩
      · rintro ⟨among, above⟩
        exact (above.eq_of_length_le (bound address among above)).symm
  | succ depth ih =>
      have keeps := nested.mem_nodes parent listed
      have down : ∀ child ∈ links.childrenOf parent,
          child ∈ nodes ∧ parent <:+ child ∧ parent.length < child.length := by
        intro child inside
        obtain ⟨among, nearest⟩ := (nested.mem_childrenOf keeps).mp inside
        obtain ⟨-, above, shorter⟩ := nearestKept_spec nearest
        exact ⟨among, above, shorter⟩
      have below : ∀ child ∈ links.childrenOf parent, (links.occurrences depth child).Nodup ∧
          ∀ address, address ∈ links.occurrences depth child ↔
            address ∈ nodes ∧ child <:+ address := by
        intro child inside
        obtain ⟨among, above, shorter⟩ := down child inside
        refine ih among fun address listed under => ?_
        have fits := bound address listed (above.trans under)
        omega
      refine ⟨List.nodup_cons.mpr ⟨fun again => ?_, List.nodup_flatMap.mpr
        ⟨fun child inside => (below child inside).1, ?_⟩⟩, fun address => ?_⟩
      · obtain ⟨child, inside, met⟩ := List.mem_flatMap.mp again
        have under := (((below child inside).2 parent).mp met).2.length_le
        have shorter := (down child inside).2.2
        omega
      · have distinct : (links.childrenOf parent).Nodup := by
          rw [nested.children parent keeps]
          exact nested.nodup.filter _
        refine distinct.imp_of_mem fun one other apart address first second => apart ?_
        exact nested.child_unique keeps one other
          (((below _ one).2 address).mp first).2 (((below _ other).2 address).mp second).2
      · rw [Links.occurrences, List.mem_cons, List.mem_flatMap]
        constructor
        · rintro (rfl | ⟨child, inside, met⟩)
          · exact ⟨listed, List.suffix_rfl⟩
          · obtain ⟨among, under⟩ := ((below child inside).2 address).mp met
            exact ⟨among, (down child inside).2.1.trans under⟩
        · rintro ⟨among, above⟩
          by_cases same : address = parent
          · exact Or.inl same
          · obtain ⟨child, inside, under⟩ :=
              nested.exists_child keeps closed among above (Ne.symm same)
            exact Or.inr ⟨child, inside, ((below child inside).2 address).mpr ⟨among, under⟩⟩

omit nested

theorem nested_relinked (uniform : OneGroupPerLevel tree levels)
    (apart : LevelsApart tree groups levels) :
    Nested (isKept tree groups) (validNodes tree groups)
      (relinked tree (isKept tree groups) (validNodes tree groups)) where
  mem_nodes _ := mem_validNodes.mp
  nodup := validNodes_nodup
  children _ := childrenOf_apart uniform apart

/-- With the kept levels apart, the topmost of them holds the roots of the whole forest. -/
theorem keepsTree_of_apart (uniform : OneGroupPerLevel tree levels)
    (apart : LevelsApart tree groups levels) (isFirst : FirstKept tree groups first)
    (own : groupAt tree first = some group)
    (head : (sortedGroups tree groups).head? = some group) :
    KeepsTree tree groups (filterTreeGroups tree groups) := by
  have topmost := isFirst.topmost uniform
  have firstLevel := levelKept_of_isKept uniform isFirst.kept
  have level := uniform first group own
  have named : group ≠ "" := level ▸ apart.named first.length firstLevel topmost
  have nested := nested_relinked uniform apart
  have closed : ∀ address ∈ validNodes tree groups, ∀ ancestor,
      nearestKept (isKept tree groups) address = some ancestor →
        ancestor ∈ validNodes tree groups := fun _ _ _ nearest =>
    mem_validNodes.mpr (nearestKept_spec nearest).1
  rw [filterTreeGroups_eq head named]
  -- The roots are the kept nodes of the first kept node's level.
  have roots : ∀ address, address ∈ (validNodes tree groups).filter
      (fun node => decide (groupAt tree node = some group)) ↔
        isKept tree groups address = true ∧ address.length = first.length := by
    intro address
    rw [List.mem_filter, mem_validNodes, decide_eq_true_eq]
    refine and_congr_right fun kept => ⟨fun same => ?_, fun same => ?_⟩
    · have low := isFirst.length_le kept
      by_contra deeper
      refine apart.single first.length firstLevel topmost address.length (by omega)
        (levelKept_of_isKept uniform kept) ?_
      rw [← level, ← uniform address group same]
    · obtain ⟨other, listed, found⟩ := isKept_iff.mp kept
      rw [found, uniform address other found, same, ← level]
  have below : ∀ root, isKept tree groups root = true →
      ((relinked tree (isKept tree groups) (validNodes tree groups)).occurrences
          tree.height root).Nodup ∧
        ∀ address, address ∈ (relinked tree (isKept tree groups)
          (validNodes tree groups)).occurrences tree.height root ↔
            address ∈ validNodes tree groups ∧ root <:+ address := by
    intro root kept
    refine nested.occurrences_spec closed (mem_validNodes.mpr kept) fun address listed _ => ?_
    obtain ⟨node, found⟩ := Option.isSome_iff_exists.mp
      (isSome_of_isKept (mem_validNodes.mp listed))
    have fits := length_add_height_le found
    omega
  refine ⟨?_, fun address => ?_, fun address parent kept nearest => ⟨?_, ?_⟩, fun address => ?_,
    fun root listed address kept => ?_⟩
  · refine List.nodup_flatMap.mpr ⟨fun root listed => (below root ((roots root).mp listed).1).1, ?_⟩
    refine (validNodes_nodup.filter _).imp_of_mem fun one other distinct address first second => ?_
    obtain ⟨keepsOne, levelOne⟩ := (roots _).mp one
    obtain ⟨keepsOther, levelOther⟩ := (roots _).mp other
    have aboveOne := (((below _ keepsOne).2 address).mp first).2
    have aboveOther := (((below _ keepsOther).2 address).mp second).2
    exact distinct ((List.suffix_of_suffix_length_le aboveOne aboveOther
      (by omega)).eq_of_length (by omega))
  · constructor
    · intro member
      obtain ⟨root, listed, met⟩ := List.mem_flatMap.mp member
      exact mem_validNodes.mp (((below root ((roots root).mp listed).1).2 address).mp met).1
    · intro kept
      obtain ⟨root, above, length, keeps⟩ :=
        isFirst.exists_ancestor uniform (isSome_of_isKept kept) (isFirst.length_le kept)
      exact List.mem_flatMap.mpr ⟨root, (roots root).mpr ⟨keeps, length⟩,
        ((below root keeps).2 address).mpr ⟨mem_validNodes.mpr kept, above⟩⟩
  · have keeps := (nearestKept_spec nearest).1
    refine List.count_eq_one_of_mem ?_
      ((nested.mem_childrenOf keeps).mpr ⟨mem_validNodes.mpr kept, nearest⟩)
    rw [nested.children parent keeps]
    exact validNodes_nodup.filter _
  · exact (if_pos (mem_validNodes.mpr kept)).trans nearest
  · rw [roots]
    exact and_congr_right fun kept => (isFirst.nearestKept_eq_none_iff uniform kept).symm
  · rw [((roots root).mp listed).2]
    exact isFirst.length_le kept

end Forest

/-- Every kept node is in the forest once, at its place, exactly where no two neighbouring
levels are kept and the topmost kept group is one level's and is not the empty text. -/
theorem filterTreeGroups_keeps_iff (tree : HierarchyNode) (levels : Nat → String)
    (uniform : OneGroupPerLevel tree levels) (groups : List String) (some_ : groups ≠ [])
    (present : ∀ group ∈ groups, ∃ address, groupAt tree address = some group) :
    KeepsTree tree groups (filterTreeGroups tree groups) ↔ LevelsApart tree groups levels := by
  obtain ⟨wanted, listed⟩ := List.exists_mem_of_ne_nil groups some_
  obtain ⟨address, found⟩ := present wanted listed
  obtain ⟨first, isFirst⟩ := exists_firstKept (isKept_iff.mpr ⟨wanted, listed, found⟩)
  obtain ⟨group, -, own⟩ := isKept_iff.mp isFirst.kept
  have head := isFirst.head?_sortedGroups own present
  refine ⟨fun keeps => ?_, fun apart => keepsTree_of_apart uniform apart isFirst own head⟩
  have named : group ≠ "" := by
    rintro rfl
    have nothing : filterTreeGroups tree groups = ⟨[], linksOf tree⟩ := by
      unfold filterTreeGroups
      rw [head]
      exact if_pos rfl
    have there := (keeps.mem_iff first).mpr isFirst.kept
    rw [nothing] at there
    cases there
  have filtered := filterTreeGroups_eq head named
  refine ⟨fun depth kept deeper => ?_, fun top kept highest deeper below levelKept same => ?_,
    fun top kept highest => ?_⟩
  · -- A kept child of a kept node is in the list twice.
    obtain ⟨childListed, child, there, length⟩ := deeper
    cases child with
    | nil => cases length
    | cons index parent =>
        have depthEq : parent.length = depth := Nat.succ.inj length
        have childKept : isKept tree groups (index :: parent) = true :=
          (isKept_iff_level uniform).mpr ⟨there, length ▸ childListed⟩
        have parentKept : isKept tree groups parent = true :=
          (isKept_iff_level uniform).mpr
            ⟨Option.isSome_of_isSome_bind there, depthEq ▸ kept.1⟩
        have nearest : nearestKept (isKept tree groups) (index :: parent) = some parent :=
          if_pos parentKept
        have once := (keeps.child (index :: parent) parent childKept nearest).1
        rw [filtered, childrenOf_relinked parentKept, List.count_append] at once
        have before : 0 < (((linksOf tree).childrenOf parent).filter
            (isKept tree groups)).count (index :: parent) :=
          List.count_pos_iff.mpr (List.mem_filter.mpr
            ⟨mem_childrenOf_linksOf.mpr ⟨index, rfl, there⟩, childKept⟩)
        have again : 0 < ((validNodes tree groups).filter fun node =>
            decide (nearestKept (isKept tree groups) node = some parent)).count
              (index :: parent) :=
          List.count_pos_iff.mpr (List.mem_filter.mpr
            ⟨mem_validNodes.mpr childKept, decide_eq_true nearest⟩)
        omega
  · -- A node of the topmost group on a lower level is among the roots.
    obtain rfl := isFirst.eq_of_topmost uniform kept highest
    obtain ⟨listed, node, there, rfl⟩ := levelKept
    have nodeKept := (isKept_iff_level uniform).mpr ⟨there, listed⟩
    obtain ⟨nodeGroup, -, nodeOwn⟩ := isKept_iff.mp nodeKept
    have isRoot : node ∈ (filterTreeGroups tree groups).roots := by
      rw [filtered]
      refine List.mem_filter.mpr ⟨mem_validNodes.mpr nodeKept, decide_eq_true ?_⟩
      rw [nodeOwn, uniform node nodeGroup nodeOwn, same, ← uniform first group own]
    have level := (isFirst.nearestKept_eq_none_iff uniform nodeKept).mp
      ((keeps.root node).mp isRoot).2
    omega
  · rw [isFirst.eq_of_topmost uniform kept highest, ← uniform first group own]
    exact named

section Samples

/-- A tree of three levels. -/
def sampleTree : HierarchyNode :=
  .inner ⟨"root", "foo"⟩ [.inner ⟨"child", "bar"⟩ [.leaf ⟨"grandchild", "baz"⟩]]

def sampleLevels : Nat → String
  | 0 => "foo"
  | 1 => "bar"
  | _ => "baz"

theorem sample_uniform : OneGroupPerLevel sampleTree sampleLevels := by
  intro address group found
  have listed : address ∈ descendants sampleTree := by
    rw [mem_descendants]
    obtain ⟨node, held, -⟩ := Option.map_eq_some_iff.mp found
    rw [held]
    rfl
  have nodes : descendants sampleTree = [[], [0], [0, 0]] := by decide +kernel
  rw [nodes] at listed
  simp only [List.mem_cons, List.not_mem_nil, or_false] at listed
  rcases listed with rfl | rfl | rfl <;> exact (Option.some.inj found).symm

theorem sample_present :
    ∀ group ∈ ["foo", "bar", "baz"], ∃ address, groupAt sampleTree address = some group := by
  intro group listed
  simp only [List.mem_cons, List.not_mem_nil, or_false] at listed
  rcases listed with rfl | rfl | rfl
  · exact ⟨[], rfl⟩
  · exact ⟨[0], rfl⟩
  · exact ⟨[0, 0], rfl⟩

end Samples

/-- The first and the last of three levels lie apart. -/
theorem filterTreeGroups_keeps_iff_sample :
    KeepsTree sampleTree ["foo", "baz"] (filterTreeGroups sampleTree ["foo", "baz"]) := by
  have present : ∀ group ∈ ["foo", "baz"], ∃ address, groupAt sampleTree address = some group :=
    fun group listed => sample_present group (by revert listed; simp; tauto)
  have deepest : ∀ depth, LevelKept sampleTree ["foo", "baz"] sampleLevels depth → depth ≤ 2 := by
    rintro depth ⟨-, address, there, rfl⟩
    obtain ⟨node, found⟩ := Option.isSome_iff_exists.mp there
    exact (Nat.le_add_right _ _).trans (length_add_height_le found)
  refine (filterTreeGroups_keeps_iff sampleTree sampleLevels sample_uniform ["foo", "baz"]
    (by decide) present).mpr ⟨fun depth kept deeper => ?_,
      fun top kept highest deeper below levelKept => ?_, fun top kept _ => ?_⟩
  · have low := deepest (depth + 1) deeper
    have lower : depth ≤ 1 := by omega
    have listed := kept.1
    have listedToo := deeper.1
    clear kept deeper
    interval_cases depth
    · exact absurd listedToo (by decide)
    · exact absurd listed (by decide)
  · have low := deepest deeper levelKept
    obtain ⟨listed, -⟩ := levelKept
    have topLow : top ≤ 1 := by omega
    interval_cases top
    · interval_cases deeper <;> decide
    · exact absurd kept.1 (by decide)
  · have low := deepest top kept
    interval_cases top <;> decide

/-- With two neighbouring levels kept the child is in its parent's list twice. -/
theorem filterTreeGroups_repeats :
    ¬ ∀ (tree : HierarchyNode) (levels : Nat → String), OneGroupPerLevel tree levels →
      ∀ groups : List String, groups ≠ [] →
        (∀ group ∈ groups, ∃ address, groupAt tree address = some group) →
          KeepsTree tree groups (filterTreeGroups tree groups) := by
  intro every
  have present : ∀ group ∈ ["foo", "bar"], ∃ address, groupAt sampleTree address = some group :=
    fun group listed => sample_present group (by revert listed; simp; tauto)
  have keeps := every sampleTree sampleLevels sample_uniform ["foo", "bar"] (by decide) present
  have once := (keeps.child [0] [] (by decide) (by decide)).1
  have twice : ((filterTreeGroups sampleTree ["foo", "bar"]).links.childrenOf []).count [0] = 2 := by
    decide +kernel
  omega

end OpenTogetherTube.Panel
