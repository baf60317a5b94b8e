import OpenTogetherTube.Panel.GroupFilter

/-!
# The links that filtering leaves

The nodes come in the order of their levels, so no node is met before one above it. While the
loop runs, the nodes behind it have their nearest kept ancestors as parents, and the others
still have the parents they were built with.
-/

namespace OpenTogetherTube.Panel

open Lib

section Descendants

variable {tree : HierarchyNode} {address : Address}

/-- These are the nodes of one level, each once. -/
structure IsLevel (tree : HierarchyNode) (depth : Nat) (level : List Address) : Prop where
  mem_iff : ∀ address, address ∈ level ↔ (nodeAt tree address).isSome ∧ address.length = depth
  nodup : level.Nodup

/-- The nodes so many levels from one on, in the order of their levels. -/
structure AreLevels (tree : HierarchyNode) (first count : Nat) (nodes : List Address) : Prop where
  mem_iff : ∀ address, address ∈ nodes ↔
    (nodeAt tree address).isSome ∧ first ≤ address.length ∧ address.length < first + count
  nodup : nodes.Nodup
  ordered : nodes.Pairwise fun earlier later => earlier.length ≤ later.length

theorem isLevel_root (tree : HierarchyNode) : IsLevel tree 0 [[]] where
  mem_iff address := by
    rw [List.mem_singleton, List.length_eq_zero_iff]
    exact ⟨fun root => ⟨root ▸ rfl, root⟩, And.right⟩
  nodup := List.nodup_singleton _

theorem IsLevel.next {depth : Nat} {level : List Address} (isLevel : IsLevel tree depth level) :
    IsLevel tree (depth + 1) (level.flatMap (linksOf tree).childrenOf) where
  mem_iff address := by
    rw [List.mem_flatMap]
    constructor
    · rintro ⟨parent, listed, child⟩
      obtain ⟨index, rfl, there⟩ := mem_childrenOf_linksOf.mp child
      exact ⟨there, by rw [List.length_cons, ((isLevel.mem_iff parent).mp listed).2]⟩
    · rintro ⟨there, deep⟩
      cases address with
      | nil => cases deep
      | cons index parent =>
          have above : (nodeAt tree parent).isSome := Option.isSome_of_isSome_bind there
          exact ⟨parent, (isLevel.mem_iff parent).mpr ⟨above, Nat.succ.inj deep⟩,
            mem_childrenOf_linksOf.mpr ⟨index, rfl, there⟩⟩
  nodup := by
    refine List.nodup_flatMap.mpr ⟨fun parent _ => nodup_childrenOf_linksOf, ?_⟩
    refine isLevel.nodup.imp fun apart child one other => ?_
    obtain ⟨_, same, -⟩ := mem_childrenOf_linksOf.mp one
    obtain ⟨_, again, -⟩ := mem_childrenOf_linksOf.mp other
    exact apart (List.cons.inj (same.symm.trans again)).2

theorem IsLevel.levelsFrom {depth : Nat} {level : List Address}
    (isLevel : IsLevel tree depth level) (count : Nat) :
    AreLevels tree depth count ((linksOf tree).levelsFrom count level) := by
  induction count generalizing depth level with
  | zero =>
      refine ⟨fun address => ?_, List.nodup_nil, List.Pairwise.nil⟩
      simp only [Links.levelsFrom, List.not_mem_nil, false_iff]
      omega
  | succ count ih =>
      have later := ih isLevel.next
      refine ⟨fun address => ?_, List.nodup_append.mpr ⟨isLevel.nodup, later.nodup, ?_⟩,
        List.pairwise_append.mpr ⟨?_, later.ordered, ?_⟩⟩
      · rw [Links.levelsFrom, List.mem_append, isLevel.mem_iff, later.mem_iff, ← and_or_left]
        refine and_congr_right fun _ => ?_
        omega
      · rintro address here _ there rfl
        have level := ((isLevel.mem_iff address).mp here).2
        have below := ((later.mem_iff address).mp there).2.1
        omega
      · refine List.Pairwise.imp_of_mem (R := fun _ _ => True) (fun one other _ => ?_)
          (List.pairwise_of_forall fun _ _ => trivial)
        rw [((isLevel.mem_iff _).mp one).2, ((isLevel.mem_iff _).mp other).2]
      · intro earlier here later_ there
        have level := ((isLevel.mem_iff earlier).mp here).2
        have below := ((later.mem_iff later_).mp there).2.1
        omega

theorem descendants_levels (tree : HierarchyNode) :
    AreLevels tree 0 (tree.height + 1) (descendants tree) :=
  (isLevel_root tree).levelsFrom (tree.height + 1)

theorem mem_descendants : address ∈ descendants tree ↔ (nodeAt tree address).isSome := by
  rw [(descendants_levels tree).mem_iff]
  refine and_iff_left_of_imp fun there => ?_
  obtain ⟨node, found⟩ := Option.isSome_iff_exists.mp there
  have fits := length_add_height_le found
  omega

end Descendants

section Loop

variable {tree : HierarchyNode} {kept : Address → Bool} {done rest : List Address}
  {node address : Address}

/-- The links once the loop is past some nodes. -/
def relinked (tree : HierarchyNode) (kept : Address → Bool) (done : List Address) : Links where
  parent address :=
    if address ∈ done then nearestKept kept address else (linksOf tree).parent address
  children address := ((linksOf tree).children address).map fun children =>
    (if address ∈ done then children.filter kept else children) ++
      done.filter fun node => decide (nearestKept kept node = some address)

theorem relinked_nil (tree : HierarchyNode) (kept : Address → Bool) :
    relinked tree kept [] = linksOf tree := by
  simp [relinked]

/-- While only kept nodes have new parents, the search ends at the nearest kept ancestor. -/
theorem findValidParent_eq {links : Links} {steps : Nat} (enough : node.length ≤ steps)
    (unchanged : ∀ address, address = node ∨ kept address = false →
      links.parent address = (linksOf tree).parent address) :
    findValidParent kept links steps node = nearestKept kept node := by
  induction steps generalizing node with
  | zero =>
      obtain rfl := List.length_eq_zero_iff.mp (Nat.le_zero.mp enough)
      rfl
  | succ steps ih =>
      unfold findValidParent
      rw [unchanged node (Or.inl rfl)]
      cases node with
      | nil => rfl
      | cons index parent =>
          dsimp only [linksOf]
          unfold nearestKept
          split
          · rfl
          · next drops =>
              refine ih (Nat.le_of_succ_le_succ enough) fun address which => ?_
              rcases which with rfl | dropped
              · exact unchanged _ (Or.inr (by simpa using drops))
              · exact unchanged address (Or.inr dropped)

/-- One round takes the next node past the loop. The nodes before it lie no deeper, so none of
them was added to its children yet. -/
theorem relink_relinked (new : node ∉ done) (only : ∀ earlier ∈ done, kept earlier = true)
    (shallow : ∀ earlier ∈ done, earlier.length ≤ node.length) :
    relink kept (relinked tree kept done) node = relinked tree kept (done ++ [node]) := by
  have unchanged : ∀ address, address = node ∨ kept address = false →
      (relinked tree kept done).parent address = (linksOf tree).parent address := by
    refine fun address which => if_neg fun listed => ?_
    rcases which with rfl | dropped
    · exact new listed
    · exact Bool.false_ne_true (dropped.symm.trans (only address listed))
  have search : findValidParent kept (relinked tree kept done) node.length node =
      nearestKept kept node := findValidParent_eq le_rfl unchanged
  have apart : nearestKept kept node ≠ some node := fun same =>
    absurd (nearestKept_spec same).2.2 (lt_irrefl _)
  have none_yet : done.filter (fun earlier => decide (nearestKept kept earlier = some node)) = [] :=
    List.filter_eq_nil_iff.mpr fun earlier listed same => by
      have deeper := (nearestKept_spec (of_decide_eq_true same)).2.2
      have higher := shallow earlier listed
      omega
  unfold relink
  rw [search]
  refine congrArg₂ Links.mk (funext fun address => ?_) (funext fun address => ?_)
  · by_cases own : address = node
    · subst own
      simp
    · simp [relinked, own]
  · by_cases own : address = node
    · subst own
      rw [Function.update_self]
      have children : (relinked tree kept done).children address =
          (linksOf tree).children address := by
        simp [relinked, new, none_yet]
      have here : (relinked tree kept (done ++ [address])).children address =
          ((linksOf tree).children address).map (·.filter kept) := by
        simp [relinked, List.filter_append, none_yet, apart]
      refine Eq.trans ?_ here.symm
      rw [← children]
      cases nearest : nearestKept kept address with
      | none => rfl
      | some parent =>
          have other : address ≠ parent := fun same => apart (same ▸ nearest)
          dsimp only
          rw [Function.update_of_ne other]
    · rw [Function.update_of_ne own]
      cases nearest : nearestKept kept node with
      | none => simp [relinked, List.filter_append, own, nearest]
      | some parent =>
          dsimp only
          by_cases added : address = parent
          · subst added
            rw [Function.update_self]
            simp [relinked, List.filter_append, own, nearest, Function.comp_def]
          · rw [Function.update_of_ne added]
            simp [relinked, List.filter_append, own, nearest, Ne.symm added]

/-- The loop as a whole. -/
theorem foldl_relink (distinct : (done ++ rest).Nodup)
    (only : ∀ node ∈ done ++ rest, kept node = true)
    (ordered : (done ++ rest).Pairwise fun earlier later => earlier.length ≤ later.length) :
    rest.foldl (relink kept) (relinked tree kept done) = relinked tree kept (done ++ rest) := by
  induction rest generalizing done with
  | nil => rw [List.append_nil, List.foldl_nil]
  | cons node rest ih =>
      have new : node ∉ done := fun listed =>
        (List.nodup_append.mp distinct).2.2 node listed node List.mem_cons_self rfl
      have shallow : ∀ earlier ∈ done, earlier.length ≤ node.length := fun earlier listed =>
        (List.pairwise_append.mp ordered).2.2 earlier listed node List.mem_cons_self
      rw [List.foldl_cons, relink_relinked new
        (fun earlier listed => only earlier (List.mem_append_left _ listed)) shallow]
      have moved : done ++ node :: rest = done ++ [node] ++ rest := List.append_cons done node rest
      rw [moved] at distinct only ordered ⊢
      exact ih distinct only ordered

end Loop

end OpenTogetherTube.Panel
