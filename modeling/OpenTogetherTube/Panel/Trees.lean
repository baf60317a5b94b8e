import OpenTogetherTube.Lib.Merging

/-!
# The trees of the visualisation panel

A node of a hierarchy has a list of child nodes or has none at all: the hierarchy of plain
data leaves the list out at a leaf, and filtering can leave an empty one. `mergeTrees` joins
trees of one id and then, below them, the children of one id.
-/

namespace OpenTogetherTube.Panel

open Lib

/-- What a node stands for. -/
structure TreeNode where
  id : String
  group : String
deriving DecidableEq

/-- A node without a list of children, or with one. -/
inductive HierarchyNode where
  | leaf (data : TreeNode)
  | inner (data : TreeNode) (children : List HierarchyNode)

namespace HierarchyNode

def data : HierarchyNode → TreeNode
  | .leaf data => data
  | .inner data _ => data

def id (node : HierarchyNode) : String := node.data.id

def children : HierarchyNode → List HierarchyNode
  | .leaf _ => []
  | .inner _ children => children

/-- `node.children?.push(...more)`. -/
def push (node : HierarchyNode) (more : List HierarchyNode) : HierarchyNode :=
  match node with
  | .leaf data => .leaf data
  | .inner data children => .inner data (children ++ more)

mutual

/-- How many levels lie below a node. -/
def height : HierarchyNode → Nat
  | .leaf _ => 0
  | .inner _ children => heightOf children + 1

/-- The height of the highest of some nodes. -/
def heightOf : List HierarchyNode → Nat
  | [] => 0
  | node :: rest => max node.height (heightOf rest)

end

mutual

/-- The ids on the way from a node to each node below it and to itself. -/
def paths : HierarchyNode → List (List String)
  | .leaf data => [[data.id]]
  | .inner data children => [data.id] :: (pathsOf children).map (data.id :: ·)

/-- The id paths of some trees, as often as they occur. -/
def pathsOf : List HierarchyNode → List (List String)
  | [] => []
  | node :: rest => node.paths ++ pathsOf rest

end

end HierarchyNode

open HierarchyNode

/-- `dedupeItems`: items of one key are reduced to one, at the place of the first. -/
def dedupeItems {Item : Type} (items : List Item) (getKey : Item → String)
    (reduce : Item → Item → Item) : List Item :=
  (mergeAll getKey reduce items).map Prod.snd

/-- The children of one node, with those of one id made one. -/
def dedupeChildren (children : List HierarchyNode) : List HierarchyNode :=
  dedupeItems children HierarchyNode.id fun a b => a.push b.children

/-- The first loop of `mergeTrees`. A tree without children is passed over. -/
def seenTrees (trees : List HierarchyNode) : OrderedMap String HierarchyNode :=
  trees.foldl (fun seen tree =>
    if tree.children.isEmpty then seen
    else
      match seen.get tree.id with
      | some existing => seen.set tree.id (existing.push tree.children)
      | none => seen.set tree.id tree) []

section Heights

variable {node : HierarchyNode} {nodes : List HierarchyNode} {bound : Nat}

theorem heightOf_le_iff : heightOf nodes ≤ bound ↔ ∀ node ∈ nodes, node.height ≤ bound := by
  induction nodes with
  | nil => simp [heightOf]
  | cons first rest ih =>
      rw [heightOf, Nat.max_le, ih, List.forall_mem_cons]

theorem height_le_heightOf (member : node ∈ nodes) : node.height ≤ heightOf nodes :=
  heightOf_le_iff.mp (Nat.le_refl _) node member

theorem heightOf_children_lt (some : ¬ node.children.isEmpty) :
    heightOf node.children < node.height := by
  cases node with
  | leaf data => exact absurd rfl some
  | inner data children => exact Nat.lt_succ_self _

/-- Taking over another node's children adds no level that neither had. -/
theorem height_push_le {more : List HierarchyNode} (own : node.height ≤ bound)
    (others : heightOf more + 1 ≤ bound) : (node.push more).height ≤ bound := by
  cases node with
  | leaf data => exact own
  | inner data children =>
      rw [height] at own
      have all : heightOf (children ++ more) ≤ bound - 1 := by
        refine heightOf_le_iff.mpr fun child listed => ?_
        rcases List.mem_append.mp listed with old | new
        · have low := height_le_heightOf old
          omega
        · have low := height_le_heightOf new
          omega
      rw [push, height]
      omega

theorem height_le_of_mem_mergeAll {merged : String × HierarchyNode}
    (member : merged ∈ mergeAll HierarchyNode.id (fun a b => a.push b.children) nodes) :
    merged.2.height ≤ heightOf nodes := by
  refine mergeAll_values (fun node listed => height_le_heightOf listed) (fun a b first second => ?_)
    merged member
  cases b with
  | leaf data =>
      cases a with
      | leaf data => exact first
      | inner data children => rwa [HierarchyNode.children, push, List.append_nil]
  | inner data others => exact height_push_le first second

theorem height_lt_of_mem_dedupeChildren {child : HierarchyNode}
    (member : child ∈ dedupeChildren node.children) : child.height < node.height := by
  obtain ⟨merged, listed, rfl⟩ := List.mem_map.mp member
  have low := height_le_of_mem_mergeAll listed
  have some : ¬ node.children.isEmpty := by
    intro empty
    rw [List.isEmpty_iff.mp empty] at listed
    cases listed
  exact Nat.lt_of_le_of_lt low (heightOf_children_lt some)

theorem seenTrees_eq (trees : List HierarchyNode) :
    seenTrees trees = mergeAll HierarchyNode.id (fun a b => a.push b.children)
      (trees.filter fun tree => !tree.children.isEmpty) := by
  unfold seenTrees mergeAll
  rw [List.foldl_filter]
  congr 1
  funext seen tree
  unfold mergeInto
  by_cases empty : tree.children.isEmpty
  · simp [empty]
  · simp only [empty]
    cases seen.get tree.id <;> rfl

theorem height_le_of_mem_seenTrees {trees : List HierarchyNode} {seen : String × HierarchyNode}
    (member : seen ∈ seenTrees trees) : seen.2.height ≤ heightOf trees := by
  rw [seenTrees_eq] at member
  refine Nat.le_trans (height_le_of_mem_mergeAll member) ?_
  exact heightOf_le_iff.mpr fun tree listed => height_le_heightOf (List.mem_filter.mp listed).1

end Heights

/-- Merges trees of one id, and below them the nodes of one id. The call for a single child
changes it in place, unless the child has no children. -/
def mergeTrees (trees : List HierarchyNode) : List HierarchyNode :=
  (seenTrees trees).attach.map fun seen =>
    .inner seen.1.2.data ((dedupeChildren seen.1.2.children).attach.map fun child =>
      (mergeTrees [child.1]).headD child.1)
termination_by heightOf trees
decreasing_by
  have lower := height_lt_of_mem_dedupeChildren child.2
  have low := height_le_of_mem_seenTrees seen.2
  rw [heightOf, heightOf, Nat.max_zero]
  omega

end OpenTogetherTube.Panel
