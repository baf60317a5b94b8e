import Mathlib.Logic.Function.Basic
import Mathlib.Data.List.Sort
import OpenTogetherTube.Panel.Trees

/-!
# Filtering a tree by groups

`filterTreeGroups` keeps the nodes of some groups. It works on the node objects in place: in
breadth-first order each kept node is given its nearest kept ancestor as parent, is added to
that node's list of children, and has its own list filtered. The objects are named here by
their addresses in the tree, and `Links` holds the two fields that change. The hierarchy is built and
walked by `d3-hierarchy`: it links each node to its parent and children as the data nests them, and
`descendants` is documented to return the nodes in breadth-first order, the node itself first.
-/

namespace OpenTogetherTube.Panel

open Lib

/-- Where a node stands: the indices among the children from the node up to the root. -/
abbrev Address := List Nat

/-- The node at an address. -/
def nodeAt (tree : HierarchyNode) : Address → Option HierarchyNode
  | [] => some tree
  | index :: parent => (nodeAt tree parent).bind fun node => node.children[index]?

/-- The `parent` and `children` of the node objects. -/
structure Links where
  parent : Address → Option Address
  children : Address → Option (List Address)

/-- The links of a hierarchy as it was built. -/
def linksOf (tree : HierarchyNode) : Links where
  parent
    | [] => none
    | _ :: parent => some parent
  children address :=
    match nodeAt tree address with
    | some (.inner _ children) => some ((List.range children.length).map (· :: address))
    | _ => none

namespace Links

/-- `node.children ?? []`. -/
def childrenOf (links : Links) (address : Address) : List Address :=
  (links.children address).getD []

/-- The nodes from one level on, level by level. -/
def levelsFrom (links : Links) : Nat → List Address → List Address
  | 0, _ => []
  | depth + 1, level => level ++ links.levelsFrom depth (level.flatMap links.childrenOf)

end Links

/-- `tree.descendants()`: the nodes level by level from the root, the children of a node in their
order. -/
def descendants (tree : HierarchyNode) : List Address :=
  (linksOf tree).levelsFrom (tree.height + 1) [[]]

/-- `node.data.group`. -/
def groupAt (tree : HierarchyNode) (address : Address) : Option String :=
  (nodeAt tree address).map (·.data.group)

/-- The groups of a tree in the order in which they are met. -/
def traverseGroups (tree : HierarchyNode) : OrderedSet String :=
  OrderedSet.addAll [] ((descendants tree).filterMap (groupAt tree))

/-- `list.indexOf(value)`. -/
def indexOf (list : List String) (value : String) : Int :=
  if value ∈ list then list.idxOf value else -1

/-- `groups.includes(node.data.group)`. -/
def isKept (tree : HierarchyNode) (groups : List String) (address : Address) : Bool :=
  match groupAt tree address with
  | some group => decide (group ∈ groups)
  | none => false

/-- `findValidParent`: up the `parent` fields to the first kept node. Each step leads to a
shorter address, so the length of the address bounds their number. -/
def findValidParent (kept : Address → Bool) (links : Links) : Nat → Address → Option Address
  | 0, _ => none
  | steps + 1, node =>
      match links.parent node with
      | none => none
      | some parent => if kept parent then some parent else findValidParent kept links steps parent

/-- One round of the loop over the kept nodes. -/
def relink (kept : Address → Bool) (links : Links) (node : Address) : Links :=
  let parent := findValidParent kept links node.length node
  let pushed := match parent with
    | some parent =>
        Function.update links.children parent ((links.children parent).map (· ++ [node]))
    | none => links.children
  { parent := Function.update links.parent node parent
    children := Function.update pushed node ((pushed node).map (·.filter kept)) }

/-- The roots that are returned, and the links of the node objects. -/
structure Filtered where
  roots : List Address
  links : Links

/-- The groups to keep, in the order of the tree's groups. -/
def sortedGroups (tree : HierarchyNode) (groups : List String) : List String :=
  groups.insertionSort fun a b =>
    indexOf (traverseGroups tree) a ≤ indexOf (traverseGroups tree) b

def validNodes (tree : HierarchyNode) (groups : List String) : List Address :=
  (descendants tree).filter (isKept tree groups)

def filterTreeGroups (tree : HierarchyNode) (groups : List String) : Filtered :=
  match (sortedGroups tree groups).head? with
  -- Without a first group, or with an empty text as the first, nothing is returned.
  | none => ⟨[], linksOf tree⟩
  | some newRootGroup =>
      if newRootGroup = "" then ⟨[], linksOf tree⟩
      else
        { roots := (validNodes tree groups).filter fun node =>
            decide (groupAt tree node = some newRootGroup)
          links := (validNodes tree groups).foldl (relink (isKept tree groups)) (linksOf tree) }

/-- The nearest kept ancestor of a node. -/
def nearestKept (kept : Address → Bool) : Address → Option Address
  | [] => none
  | _ :: parent => if kept parent then some parent else nearestKept kept parent

section Addresses

variable {tree node : HierarchyNode} {address other : Address} {kept : Address → Bool}

/-- A node's height and depth fit into the tree. -/
theorem length_add_height_le (found : nodeAt tree address = some node) :
    address.length + node.height ≤ tree.height := by
  induction address generalizing node with
  | nil =>
      obtain rfl := Option.some.inj found
      rw [List.length_nil, Nat.zero_add]
  | cons index parent ih =>
      obtain ⟨above, held, child⟩ := Option.bind_eq_some_iff.mp found
      have higher := ih held
      have listed := List.mem_of_getElem? child
      have low := height_le_heightOf listed
      have some_ : ¬ above.children.isEmpty := by
        intro empty
        rw [List.isEmpty_iff.mp empty] at listed
        cases listed
      have lower := heightOf_children_lt some_
      rw [List.length_cons]
      omega

theorem mem_childrenOf_linksOf :
    other ∈ (linksOf tree).childrenOf address ↔
      ∃ index, other = index :: address ∧ (nodeAt tree other).isSome := by
  unfold Links.childrenOf linksOf
  constructor
  · intro member
    cases found : nodeAt tree address with
    | none => simp [found] at member
    | some node =>
        cases node with
        | leaf data => simp [found] at member
        | inner data children =>
            simp only [found, Option.getD_some, List.mem_map, List.mem_range] at member
            obtain ⟨index, within, rfl⟩ := member
            refine ⟨index, rfl, ?_⟩
            simp [nodeAt, found, HierarchyNode.children, within]
  · rintro ⟨index, rfl, there⟩
    dsimp only
    cases found : nodeAt tree address with
    | none => simp [nodeAt, found] at there
    | some node =>
        cases node with
        | leaf data => simp [nodeAt, found, HierarchyNode.children] at there
        | inner data children =>
            rw [Option.getD_some, List.mem_map]
            simp only [List.mem_range]
            refine ⟨index, ?_, rfl⟩
            simpa [nodeAt, found, HierarchyNode.children] using there

theorem nodup_childrenOf_linksOf : ((linksOf tree).childrenOf address).Nodup := by
  unfold Links.childrenOf linksOf
  dsimp only
  split
  · exact (List.nodup_range).map fun first second same => (List.cons.inj same).1
  · exact List.nodup_nil

/-- The nearest kept ancestor is kept and lies above. -/
theorem nearestKept_spec (nearest : nearestKept kept address = some other) :
    kept other = true ∧ other <:+ address ∧ other.length < address.length := by
  induction address with
  | nil => cases nearest
  | cons index parent ih =>
      unfold nearestKept at nearest
      split at nearest
      · next keeps =>
          obtain rfl := Option.some.inj nearest
          exact ⟨keeps, List.suffix_cons index parent, Nat.lt_succ_self _⟩
      · obtain ⟨keeps, above, shorter⟩ := ih nearest
        exact ⟨keeps, above.trans (List.suffix_cons index parent), Nat.lt_succ_of_lt shorter⟩

theorem exists_nearestKept {ancestor : Address} (keeps : kept ancestor = true)
    (above : ancestor <:+ address) (proper : ancestor ≠ address) :
    ∃ nearest, nearestKept kept address = some nearest ∧ ancestor <:+ nearest := by
  induction address with
  | nil => exact absurd (List.suffix_nil.mp above) proper
  | cons index parent ih =>
      have above := (List.suffix_cons_iff.mp above).resolve_left proper
      unfold nearestKept
      split
      · exact ⟨parent, rfl, above⟩
      · next drops =>
          refine ih above ?_
          rintro rfl
          exact drops keeps

end Addresses

end OpenTogetherTube.Panel
