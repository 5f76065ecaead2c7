import DeclMerge.Proofs.Syntax.Legible
import Mathlib.Data.List.Basic

/-!
# Putting nodes into a tree

An insertion says where the nodes of a tree stand in a tree with further nodes. It only relates
parents: the first node above a place that is not new is the place of the old parent. From this
follows what is above at any height (`Insertion.old_ancestors`), so whatever is read off the nodes
above, and not off the new ones, stays as it was (`Insertion.filterMap_eq`).
-/
namespace DeclMerge

theorem Node.ancestors_of_split {node above : Node} {before after : List Node}
    (split : node.ancestors = before ++ above :: after) : above.ancestors = after := by
  induction before generalizing node with
  | nil =>
    cases parent : node.parent? with
    | none =>
      rw [ancestors_of_root parent] at split
      cases split
    | some next =>
      rw [ancestors_of_parent parent] at split
      cases split
      rfl
  | cons first before ih =>
    cases parent : node.parent? with
    | none =>
      rw [ancestors_of_root parent] at split
      cases split
    | some next =>
      rw [ancestors_of_parent parent] at split
      exact ih (List.cons.inj split).2

/-- The nodes of `tree` have a place in `other`, and in between stand new nodes at most. -/
structure Insertion (tree other : Tree) where
  place : Node → Node
  place_mem : ∀ node ∈ tree.nodes, place node ∈ other.nodes
  climbs : ∀ node ∈ tree.nodes,
    (place node).ancestors.find? (· ∈ tree.nodes.map place) = node.parent?.map place

namespace Insertion

variable {tree other : Tree} (insertion : Insertion tree other)

def IsNew (node : Node) : Prop := node ∉ tree.nodes.map insertion.place

instance : DecidablePred insertion.IsNew := fun _ => inferInstanceAs (Decidable (¬ _))

/-- Without the new nodes, the way up is the old way. -/
theorem old_ancestors (node : Node) (here : node.tree = tree) :
    (insertion.place node).ancestors.filter (¬ insertion.IsNew ·) =
      node.ancestors.map insertion.place := by
  have climb := insertion.climbs node ((tree.mem_nodes_iff node).mpr here)
  cases parent : node.parent? with
  | none =>
    rw [parent, Option.map_none, List.find?_eq_none] at climb
    rw [Node.ancestors_of_root parent, List.map_nil, List.filter_eq_nil_iff]
    simpa [IsNew] using climb
  | some above =>
    rw [parent, Option.map_some, List.find?_eq_some_iff_append] at climb
    obtain ⟨old, before, after, split, new⟩ := climb
    -- What is above the place of the parent is known from the parent.
    have further := old_ancestors above (by rw [← here, Node.tree_eq_of_parent? parent])
    rw [Node.ancestors_of_split split] at further
    have none : before.filter (¬ insertion.IsNew ·) = [] := by
      rw [List.filter_eq_nil_iff]
      simpa [IsNew] using new
    rw [split, List.filter_append, none, List.nil_append, List.filter_cons_of_pos, further,
      Node.ancestors_of_parent parent, List.map_cons]
    simpa [IsNew] using old
termination_by node.index
decreasing_by exact Node.parent?_index_lt parent

/-- What new nodes do not add to, and old ones add to as before, is as before. -/
theorem filterMap_eq {β : Type} {read : Node → Option β} {above olds : List Node}
    (old : above.filter (¬ insertion.IsNew ·) = olds.map insertion.place)
    (kept : ∀ node ∈ olds, read (insertion.place node) = read node)
    (silent : ∀ node ∈ above, insertion.IsNew node → read node = none) :
    above.filterMap read = olds.filterMap read := by
  calc above.filterMap read
      = (above.filter (¬ insertion.IsNew ·)).filterMap read := by
        rw [List.filterMap_filter]
        refine List.filterMap_congr fun node member => ?_
        by_cases new : insertion.IsNew node
        · simp [new, silent node member new]
        · simp [new]
    _ = olds.filterMap (read ∘ insertion.place) := by rw [old, List.filterMap_map]
    _ = olds.filterMap read := List.filterMap_congr kept

end Insertion

end DeclMerge
