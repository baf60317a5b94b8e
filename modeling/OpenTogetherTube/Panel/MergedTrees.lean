import OpenTogetherTube.Panel.Trees

/-!
# What merging trees keeps

The id paths of a forest are read one step at a time: a path goes on below the nodes of its
first id. Merging invents no path and repeats none. It loses the paths below a node whose id
was taken first by a sibling without a list of children, and a root without children.
-/

namespace OpenTogetherTube.Panel

open Lib HierarchyNode

/-- The children of all nodes of one id, in their order. -/
def below (step : String) (nodes : List HierarchyNode) : List HierarchyNode :=
  (nodes.filter fun node => decide (node.id = step)).flatMap children

/-- The nodes at an id path, in their order. -/
def nodesAt : List String → List HierarchyNode → List HierarchyNode
  | [], _ => []
  | [step], nodes => nodes.filter fun node => decide (node.id = step)
  | step :: rest, nodes => nodesAt rest (below step nodes)

/-- A node with a list of children, even an empty one. -/
def HierarchyNode.hasList : HierarchyNode → Bool
  | .leaf _ => false
  | .inner _ _ => true

/-- Nothing is lost among nodes of one path: the first has a list, or none has children. -/
def TakesOver : List HierarchyNode → Prop
  | [] => True
  | first :: rest => first.hasList = true ∨ ∀ node ∈ rest, node.children = []

section Paths

variable {nodes : List HierarchyNode} {step : String} {rest path : List String}

theorem mem_pathsOf : path ∈ pathsOf nodes ↔ ∃ node ∈ nodes, path ∈ node.paths := by
  induction nodes with
  | nil => simp [pathsOf]
  | cons first others ih => simp [pathsOf, ih]

theorem mem_paths {node : HierarchyNode} :
    path ∈ node.paths ↔ path = [node.id] ∨ ∃ rest ∈ pathsOf node.children, path = node.id :: rest := by
  cases node with
  | leaf data => simp [paths, HierarchyNode.id, HierarchyNode.data, children, pathsOf]
  | inner data children =>
      simp only [paths, HierarchyNode.id, HierarchyNode.data, HierarchyNode.children,
        List.mem_cons, List.mem_map]
      exact or_congr_right (exists_congr fun _ => and_congr_right fun _ => eq_comm)

theorem nil_not_mem_pathsOf : [] ∉ pathsOf nodes := by
  intro member
  obtain ⟨node, -, path⟩ := mem_pathsOf.mp member
  rcases mem_paths.mp path with root | ⟨rest, -, deeper⟩
  · cases root
  · cases deeper

theorem mem_below {child : HierarchyNode} :
    child ∈ below step nodes ↔ ∃ node ∈ nodes, node.id = step ∧ child ∈ node.children := by
  unfold below
  simp only [List.mem_flatMap, List.mem_filter, decide_eq_true_eq, and_assoc]

theorem cons_mem_pathsOf :
    step :: rest ∈ pathsOf nodes ↔
      (∃ node ∈ nodes, node.id = step) ∧ (rest = [] ∨ rest ∈ pathsOf (below step nodes)) := by
  constructor
  · intro member
    obtain ⟨node, listed, path⟩ := mem_pathsOf.mp member
    rcases mem_paths.mp path with root | ⟨_, deeper, same⟩
    · obtain ⟨rfl, rfl⟩ := List.cons.inj root
      exact ⟨⟨node, listed, rfl⟩, Or.inl rfl⟩
    · obtain ⟨rfl, rfl⟩ := List.cons.inj same
      obtain ⟨child, inside, path⟩ := mem_pathsOf.mp deeper
      exact ⟨⟨node, listed, rfl⟩,
        Or.inr (mem_pathsOf.mpr ⟨child, mem_below.mpr ⟨node, listed, rfl, inside⟩, path⟩)⟩
  · rintro ⟨⟨node, listed, rfl⟩, rfl | deeper⟩
    · exact mem_pathsOf.mpr ⟨node, listed, mem_paths.mpr (Or.inl rfl)⟩
    · obtain ⟨child, inside, path⟩ := mem_pathsOf.mp deeper
      obtain ⟨other, among, same, inside⟩ := mem_below.mp inside
      refine mem_pathsOf.mpr ⟨other, among, mem_paths.mpr (Or.inr ⟨rest, ?_, by rw [same]⟩)⟩
      exact mem_pathsOf.mpr ⟨child, inside, path⟩

/-- Trees of different ids with no path twice below them have no path twice. -/
theorem nodup_pathsOf (distinct : (nodes.map HierarchyNode.id).Nodup)
    (deeper : ∀ node ∈ nodes, (pathsOf node.children).Nodup) : (pathsOf nodes).Nodup := by
  induction nodes with
  | nil => exact List.nodup_nil
  | cons first others ih =>
      obtain ⟨new, distinct⟩ := List.nodup_cons.mp distinct
      refine List.nodup_append.mpr ⟨?_, ih distinct
        fun node listed => deeper node (List.mem_cons_of_mem _ listed), ?_⟩
      · have inside := deeper first List.mem_cons_self
        cases first with
        | leaf data => exact List.nodup_singleton _
        | inner data children =>
            refine List.nodup_cons.mpr ⟨fun root => ?_, inside.map (List.cons_injective)⟩
            obtain ⟨rest, listed, same⟩ := List.mem_map.mp root
            obtain rfl := (List.cons.inj same).2
            exact nil_not_mem_pathsOf listed
      · rintro path own _ other rfl
        have head : path.head? = some first.id := by
          rcases mem_paths.mp own with rfl | ⟨rest, -, rfl⟩ <;> rfl
        obtain ⟨node, listed, path⟩ := mem_pathsOf.mp other
        refine new (List.mem_map.mpr ⟨node, listed, ?_⟩)
        rcases mem_paths.mp path with rfl | ⟨rest, -, rfl⟩
        · exact Option.some.inj head
        · exact Option.some.inj head

end Paths

section Levels

/-- A child once its call has changed it. -/
def mergedChild (child : HierarchyNode) : HierarchyNode := (mergeTrees [child]).headD child

/-- The children of one node once they are merged. -/
def mergedLevel (siblings : List HierarchyNode) : List HierarchyNode :=
  (dedupeChildren siblings).map mergedChild

/-- The children that the node merged from those of one id has before its own are merged. -/
def taken (step : String) (siblings : List HierarchyNode) : List HierarchyNode :=
  ((mergedItem (fun a b => a.push b.children)
    (siblings.filter fun node => decide (node.id = step))).map children).getD []

variable {trees siblings : List HierarchyNode} {step : String} {rest path : List String}

theorem mergeTrees_eq (trees : List HierarchyNode) :
    mergeTrees trees =
      (seenTrees trees).map fun seen => .inner seen.2.data (mergedLevel seen.2.children) := by
  have level (siblings : List HierarchyNode) :
      (siblings.attach.map fun child => (mergeTrees [child.1]).headD child.1) =
        siblings.map mergedChild := @List.attach_map_val _ _ siblings mergedChild
  rw [mergeTrees]
  simp only [level]
  exact @List.attach_map_val _ _ (seenTrees trees) fun seen =>
    HierarchyNode.inner seen.2.data (mergedLevel seen.2.children)

theorem mergedLevel_nil : mergedLevel [] = [] := rfl

theorem mergedChild_eq (child : HierarchyNode) :
    mergedChild child =
      if child.children = [] then child else .inner child.data (mergedLevel child.children) := by
  unfold mergedChild
  rw [mergeTrees_eq, seenTrees_eq]
  by_cases empty : child.children = []
  · simp [empty, mergeAll]
  · simp [empty, mergeAll, mergeInto, OrderedMap.get, OrderedMap.set, OrderedMap.has]

theorem mergedChild_id (child : HierarchyNode) : (mergedChild child).id = child.id := by
  rw [mergedChild_eq]
  split <;> rfl

theorem mergedChild_children (child : HierarchyNode) :
    (mergedChild child).children = mergedLevel child.children := by
  rw [mergedChild_eq]
  split
  · next empty => rw [empty, mergedLevel_nil]
  · rfl

theorem push_id (node : HierarchyNode) (more : List HierarchyNode) :
    (node.push more).id = node.id := by
  cases node <;> rfl

/-- Nodes of one id take over what the first has a list for. -/
theorem children_foldl_push (first : HierarchyNode) (others : List HierarchyNode) :
    (others.foldl (fun a b => a.push b.children) first).children =
      if first.hasList then first.children ++ others.flatMap children else [] := by
  induction others generalizing first with
  | nil => cases first <;> simp [hasList, children]
  | cons other later ih =>
      rw [List.foldl_cons, ih]
      cases first <;> simp [hasList, push, children]

/-- The children are those of all nodes of the id exactly where nothing is lost. -/
theorem taken_eq_below_iff :
    taken step siblings = below step siblings ↔ TakesOver (nodesAt [step] siblings) := by
  unfold taken below nodesAt
  cases siblings.filter fun node => decide (node.id = step) with
  | nil => simp [mergedItem, TakesOver]
  | cons first others =>
      simp only [mergedItem, Option.map_some, Option.getD_some, children_foldl_push, TakesOver,
        List.flatMap_cons]
      cases first <;> simp [hasList, children]

theorem taken_eq_nil_of_not (lost : ¬ TakesOver (nodesAt [step] siblings)) :
    taken step siblings = [] := by
  unfold taken
  unfold nodesAt at lost
  revert lost
  cases siblings.filter fun node => decide (node.id = step) with
  | nil => exact fun lost => absurd trivial lost
  | cons first others =>
      intro lost
      simp only [mergedItem, Option.map_some, Option.getD_some, children_foldl_push]
      rw [if_neg fun list => lost (Or.inl list)]

/-- How the nodes of one level are changed once they are merged. -/
structure Deepens (change : HierarchyNode → HierarchyNode) : Prop where
  id : ∀ node, (change node).id = node.id
  children : ∀ node, (change node).children = mergedLevel node.children

theorem mergedChild_deepens : Deepens mergedChild := ⟨mergedChild_id, mergedChild_children⟩

/-- The merged nodes of one level. -/
def mergedNodes (change : HierarchyNode → HierarchyNode) (nodes : List HierarchyNode) :
    List HierarchyNode :=
  (mergeAll HierarchyNode.id (fun a b => a.push b.children) nodes).map fun entry => change entry.2

theorem mergedLevel_eq (siblings : List HierarchyNode) :
    mergedLevel siblings = mergedNodes mergedChild siblings := by
  unfold mergedLevel dedupeChildren dedupeItems mergedNodes
  rw [List.map_map]
  rfl

variable {change : HierarchyNode → HierarchyNode} {nodes : List HierarchyNode}

theorem mergedNodes_keyed :
    ∀ entry ∈ mergeAll HierarchyNode.id (fun a b => a.push b.children) nodes,
      entry.1 = entry.2.id :=
  mergeAll_keyed fun existing _ => push_id existing _

theorem mem_mergedNodes (deepens : Deepens change) {node : HierarchyNode} :
    (node ∈ mergedNodes change nodes ∧ node.id = step) ↔
      ∃ merged, mergedItem (fun a b => a.push b.children)
        (nodes.filter fun node => decide (node.id = step)) = some merged ∧ node = change merged := by
  have distinct := mergeAll_nodup HierarchyNode.id (fun a b => a.push b.children) nodes
  rw [← get_mergeAll]
  constructor
  · rintro ⟨member, rfl⟩
    obtain ⟨entry, listed, rfl⟩ := List.mem_map.mp member
    refine ⟨entry.2, ?_, rfl⟩
    rw [deepens.id, ← mergedNodes_keyed entry listed]
    exact OrderedMap.get_of_mem distinct listed
  · rintro ⟨merged, found, rfl⟩
    have listed := OrderedMap.mem_of_get found
    refine ⟨List.mem_map.mpr ⟨_, listed, rfl⟩, ?_⟩
    rw [deepens.id]
    exact (mergedNodes_keyed _ listed).symm

theorem exists_mergedItem_iff :
    (∃ merged, mergedItem (fun a b => HierarchyNode.push a b.children)
      (nodes.filter fun node => decide (node.id = step)) = some merged) ↔
      ∃ node ∈ nodes, node.id = step := by
  have some_iff : (∃ node ∈ nodes, node.id = step) ↔
      nodes.filter (fun node => decide (node.id = step)) ≠ [] := by
    rw [Ne, List.filter_eq_nil_iff]
    simp
  rw [some_iff]
  cases nodes.filter fun node => decide (node.id = step) with
  | nil => simp [mergedItem]
  | cons first rest => simp [mergedItem]

/-- A path of the merged nodes goes on in what they took over. -/
theorem cons_mem_pathsOf_mergedNodes (deepens : Deepens change) :
    step :: rest ∈ pathsOf (mergedNodes change nodes) ↔
      (∃ node ∈ nodes, node.id = step) ∧
        (rest = [] ∨ rest ∈ pathsOf (mergedLevel (taken step nodes))) := by
  have found {node : HierarchyNode} := @mem_mergedNodes step change nodes deepens node
  have there : (∃ node ∈ mergedNodes change nodes, node.id = step) ↔
      ∃ node ∈ nodes, node.id = step := by
    refine Iff.trans ?_ exists_mergedItem_iff
    constructor
    · rintro ⟨node, member, same⟩
      obtain ⟨merged, item, -⟩ := found.mp ⟨member, same⟩
      exact ⟨merged, item⟩
    · rintro ⟨merged, item⟩
      obtain ⟨member, same⟩ := found.mpr ⟨merged, item, rfl⟩
      exact ⟨_, member, same⟩
  have deeper : rest ∈ pathsOf (below step (mergedNodes change nodes)) ↔
      rest ∈ pathsOf (mergedLevel (taken step nodes)) := by
    simp only [mem_pathsOf, mem_below]
    constructor
    · rintro ⟨child, ⟨node, member, same, inside⟩, path⟩
      obtain ⟨merged, item, rfl⟩ := found.mp ⟨member, same⟩
      rw [deepens.children] at inside
      refine ⟨child, ?_, path⟩
      simpa [taken, item] using inside
    · rintro ⟨child, inside, path⟩
      unfold taken at inside
      cases item : mergedItem (fun a b => HierarchyNode.push a b.children)
          (nodes.filter fun node => decide (node.id = step)) with
      | none =>
          rw [item] at inside
          cases inside
      | some merged =>
          rw [item] at inside
          obtain ⟨member, same⟩ := found.mpr ⟨merged, item, rfl⟩
          refine ⟨child, ⟨_, member, same, ?_⟩, path⟩
          rwa [deepens.children]
  rw [cons_mem_pathsOf, there, deeper]

/-- What is taken over lies below. -/
theorem taken_cases (step : String) (nodes : List HierarchyNode) :
    taken step nodes = below step nodes ∨ taken step nodes = [] := by
  by_cases takes : TakesOver (nodesAt [step] nodes)
  · exact Or.inl (taken_eq_below_iff.mpr takes)
  · exact Or.inr (taken_eq_nil_of_not takes)

theorem mem_pathsOf_of_mergedLevel (merged : path ∈ pathsOf (mergedLevel siblings)) :
    path ∈ pathsOf siblings := by
  induction path generalizing siblings with
  | nil => exact absurd merged nil_not_mem_pathsOf
  | cons step rest ih =>
      rw [mergedLevel_eq, cons_mem_pathsOf_mergedNodes mergedChild_deepens] at merged
      obtain ⟨node, last | deeper⟩ := merged
      · exact cons_mem_pathsOf.mpr ⟨node, Or.inl last⟩
      · refine cons_mem_pathsOf.mpr ⟨node, Or.inr ?_⟩
        rcases taken_cases step siblings with same | nothing
        · rw [same] at deeper
          exact ih deeper
        · rw [nothing, mergedLevel_nil] at deeper
          cases deeper

theorem nodup_pathsOf_mergedNodes (deepens : Deepens change)
    (deeper : ∀ siblings, heightOf siblings < heightOf nodes →
      (pathsOf (mergedLevel siblings)).Nodup) : (pathsOf (mergedNodes change nodes)).Nodup := by
  refine nodup_pathsOf ?_ fun node member => ?_
  · have ids : (mergedNodes change nodes).map HierarchyNode.id =
        (mergeAll HierarchyNode.id (fun a b => a.push b.children) nodes).keys := by
      unfold mergedNodes OrderedMap.keys
      rw [List.map_map]
      refine List.map_congr_left fun entry listed => ?_
      rw [mergedNodes_keyed entry listed]
      exact deepens.id entry.2
    rw [ids]
    exact mergeAll_nodup _ _ _
  · obtain ⟨entry, listed, rfl⟩ := List.mem_map.mp member
    rw [deepens.children]
    by_cases empty : entry.2.children = []
    · rw [empty, mergedLevel_nil]
      exact List.nodup_nil
    · refine deeper _ (Nat.lt_of_lt_of_le (heightOf_children_lt ?_)
        (height_le_of_mem_mergeAll listed))
      simpa using empty

theorem nodup_pathsOf_mergedLevel (siblings : List HierarchyNode) :
    (pathsOf (mergedLevel siblings)).Nodup := by
  induction bound : heightOf siblings using Nat.strongRecOn generalizing siblings with
  | _ bound ih =>
      subst bound
      rw [mergedLevel_eq]
      exact nodup_pathsOf_mergedNodes mergedChild_deepens fun lower less =>
        ih _ less lower rfl

/-- A level keeps its paths exactly where nothing is lost at any of them. -/
theorem mergedLevel_keeps_iff :
    (∀ path, path ∈ pathsOf (mergedLevel siblings) ↔ path ∈ pathsOf siblings) ↔
      ∀ path, TakesOver (nodesAt path siblings) := by
  constructor
  · intro keeps path
    induction path generalizing siblings with
    | nil => trivial
    | cons step rest ih =>
        -- The paths that go on are kept one level below.
        have onward : ∀ later, (∃ node ∈ siblings, node.id = step) →
            (later ∈ pathsOf (mergedLevel (taken step siblings)) ↔
              later ∈ pathsOf (below step siblings)) := by
          intro later node
          by_cases last : later = []
          · subst last
            simp only [nil_not_mem_pathsOf]
          · have whole := keeps (step :: later)
            rw [mergedLevel_eq, cons_mem_pathsOf_mergedNodes mergedChild_deepens,
              cons_mem_pathsOf] at whole
            simpa [node, last] using whole
        by_cases node : ∃ node ∈ siblings, node.id = step
        · have same : taken step siblings = below step siblings := by
            rcases taken_cases step siblings with same | nothing
            · exact same
            · rw [nothing]
              symm
              refine List.eq_nil_iff_forall_not_mem.mpr fun child inside => ?_
              have path := (onward [child.id] node).mpr
                (mem_pathsOf.mpr ⟨child, inside, mem_paths.mpr (Or.inl rfl)⟩)
              rw [nothing, mergedLevel_nil] at path
              cases path
          cases rest with
          | nil => exact taken_eq_below_iff.mp same
          | cons next rest =>
              refine ih fun later => ?_
              have kept := onward later node
              rwa [same] at kept
        · have nothing : below step siblings = [] :=
            List.eq_nil_iff_forall_not_mem.mpr fun child inside => by
              obtain ⟨other, listed, same, -⟩ := mem_below.mp inside
              exact node ⟨other, listed, same⟩
          cases rest with
          | nil =>
              have none : nodesAt [step] siblings = [] :=
                List.filter_eq_nil_iff.mpr fun other listed same =>
                  node ⟨other, listed, of_decide_eq_true same⟩
              rw [none]
              trivial
          | cons next rest =>
              refine ih fun later => ?_
              rw [nothing, mergedLevel_nil]
  · intro takes path
    refine ⟨mem_pathsOf_of_mergedLevel, fun member => ?_⟩
    induction path generalizing siblings with
    | nil => exact absurd member nil_not_mem_pathsOf
    | cons step rest ih =>
        rw [mergedLevel_eq, cons_mem_pathsOf_mergedNodes mergedChild_deepens]
        obtain ⟨node, last | deeper⟩ := cons_mem_pathsOf.mp member
        · exact ⟨node, Or.inl last⟩
        · refine ⟨node, Or.inr ?_⟩
          rw [taken_eq_below_iff.mpr (takes [step])]
          refine ih (fun later => ?_) deeper
          cases later with
          | nil => trivial
          | cons next later => exact takes (step :: next :: later)

end Levels

section Roots

variable {trees : List HierarchyNode} {step : String} {path : List String}

/-- How a tree is changed once it is merged. -/
def mergedRoot (tree : HierarchyNode) : HierarchyNode :=
  .inner tree.data (mergedLevel tree.children)

/-- The trees that are not passed over. -/
def withChildren (trees : List HierarchyNode) : List HierarchyNode :=
  trees.filter fun tree => !tree.children.isEmpty

theorem mergeTrees_eq_mergedNodes (trees : List HierarchyNode) :
    mergeTrees trees = mergedNodes mergedRoot (withChildren trees) := by
  rw [mergeTrees_eq, seenTrees_eq]
  rfl

theorem mergedRoot_deepens : Deepens mergedRoot := ⟨fun _ => rfl, fun _ => rfl⟩

theorem mem_withChildren {tree : HierarchyNode} :
    tree ∈ withChildren trees ↔ tree ∈ trees ∧ tree.children ≠ [] := by
  simp [withChildren]

theorem below_withChildren (step : String) (trees : List HierarchyNode) :
    below step (withChildren trees) = below step trees := by
  induction trees with
  | nil => rfl
  | cons tree rest ih =>
      unfold below withChildren at ih ⊢
      rw [List.filter_filter] at ih ⊢
      by_cases empty : tree.children = [] <;> by_cases own : tree.id = step <;>
        simp [empty, own, ih]

/-- Roots with children take over from one another, and the others have nothing to give. -/
theorem taken_withChildren (step : String) (trees : List HierarchyNode) :
    taken step (withChildren trees) = below step trees := by
  have takes : TakesOver (nodesAt [step] (withChildren trees)) := by
    unfold nodesAt
    cases found : (withChildren trees).filter fun node => decide (node.id = step) with
    | nil => trivial
    | cons first rest =>
        have listed : first ∈ (withChildren trees).filter fun node => decide (node.id = step) :=
          found ▸ List.mem_cons_self
        have some := (mem_withChildren.mp (List.mem_filter.mp listed).1).2
        refine Or.inl ?_
        cases first with
        | leaf data => exact absurd rfl some
        | inner data children => rfl
  rw [taken_eq_below_iff.mpr takes, below_withChildren]

theorem cons_mem_pathsOf_mergeTrees :
    step :: path ∈ pathsOf (mergeTrees trees) ↔
      (∃ tree ∈ trees, tree.id = step ∧ tree.children ≠ []) ∧
        (path = [] ∨ path ∈ pathsOf (mergedLevel (below step trees))) := by
  rw [mergeTrees_eq_mergedNodes, cons_mem_pathsOf_mergedNodes mergedRoot_deepens,
    taken_withChildren]
  simp only [mem_withChildren, and_assoc, and_comm]

end Roots

/-- The id paths of the trees are those of the merged trees, each once, exactly where every
root without children has one of its id with children, and below the roots the first node of
each path has a list of children or no node of the path has children. -/
theorem mergeTrees_keeps_iff (trees : List HierarchyNode) :
    ((∀ path, path ∈ pathsOf (mergeTrees trees) ↔ path ∈ pathsOf trees) ∧
        (pathsOf (mergeTrees trees)).Nodup) ↔
      (∀ tree ∈ trees, ∃ other ∈ trees, other.id = tree.id ∧ other.children ≠ []) ∧
        ∀ root path, path ≠ [] → TakesOver (nodesAt (root :: path) trees) := by
  have once : (pathsOf (mergeTrees trees)).Nodup := by
    rw [mergeTrees_eq_mergedNodes]
    exact nodup_pathsOf_mergedNodes mergedRoot_deepens fun siblings _ =>
      nodup_pathsOf_mergedLevel siblings
  constructor
  · rintro ⟨keeps, -⟩
    have roots : ∀ tree ∈ trees, ∃ other ∈ trees, other.id = tree.id ∧ other.children ≠ [] := by
      intro tree listed
      have path := (keeps [tree.id]).mpr (cons_mem_pathsOf.mpr ⟨⟨tree, listed, rfl⟩, Or.inl rfl⟩)
      exact (cons_mem_pathsOf_mergeTrees.mp path).1
    refine ⟨roots, fun root path some => ?_⟩
    have level : ∀ later, later ∈ pathsOf (mergedLevel (below root trees)) ↔
        later ∈ pathsOf (below root trees) := by
      refine fun later => ⟨mem_pathsOf_of_mergedLevel, fun member => ?_⟩
      obtain ⟨child, inside, -⟩ := mem_pathsOf.mp member
      obtain ⟨tree, listed, same, -⟩ := mem_below.mp inside
      have whole := (keeps (root :: later)).mpr
        (cons_mem_pathsOf.mpr ⟨⟨tree, listed, same⟩, Or.inr member⟩)
      rcases (cons_mem_pathsOf_mergeTrees.mp whole).2 with rfl | kept
      · exact absurd member nil_not_mem_pathsOf
      · exact kept
    cases path with
    | nil => exact absurd rfl some
    | cons next rest => exact mergedLevel_keeps_iff.mp level (next :: rest)
  · rintro ⟨roots, takes⟩
    refine ⟨fun path => ?_, once⟩
    cases path with
    | nil => simp only [nil_not_mem_pathsOf]
    | cons root path =>
        have level : ∀ later, TakesOver (nodesAt later (below root trees)) := by
          intro later
          cases later with
          | nil => trivial
          | cons next rest => exact takes root (next :: rest) (List.cons_ne_nil _ _)
        rw [cons_mem_pathsOf_mergeTrees, cons_mem_pathsOf, mergedLevel_keeps_iff.mpr level path]
        refine and_congr_left fun _ => ⟨?_, ?_⟩
        · rintro ⟨tree, listed, same, -⟩
          exact ⟨tree, listed, same⟩
        · rintro ⟨tree, listed, rfl⟩
          exact roots tree listed

/-- A root whose second child has the id of the first, a leaf, and a child of its own. -/
def leafFirst : HierarchyNode :=
  .inner ⟨"root", "root"⟩
    [.leaf ⟨"x", "room"⟩, .inner ⟨"x", "room"⟩ [.leaf ⟨"y", "client"⟩]]

/-- The child of the second is lost: the leaf has no list to push it to. -/
theorem mergeTrees_loses :
    ¬ ∀ trees : List HierarchyNode,
      (∀ path, path ∈ pathsOf (mergeTrees trees) ↔ path ∈ pathsOf trees) ∧
        (pathsOf (mergeTrees trees)).Nodup := by
  intro every
  have kept := (every [leafFirst]).1 ["root", "x", "y"]
  have merged : mergeTrees [leafFirst] = [.inner ⟨"root", "root"⟩ [.leaf ⟨"x", "room"⟩]] := by
    rw [mergeTrees_eq]
    change [inner ⟨"root", "root"⟩ [mergedChild (.leaf ⟨"x", "room"⟩)]] = _
    rw [mergedChild_eq]
    rfl
  rw [merged] at kept
  simp [leafFirst, pathsOf, paths] at kept

end OpenTogetherTube.Panel
