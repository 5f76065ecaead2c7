import DeclMerge.Proofs.Syntax.Copy

/-!
# Trees with the same rows

Trees whose rows agree in all but the ranges have the same nodes in the same places: the node
with the same index is a copy, whatever the two sources read (`SameRows.copy`).
-/
namespace DeclMerge

/-- The row without its range. -/
def Row.unplaced (row : Row) : Row := { row with span := none }

theorem Row.unplaced_inj {row other : Row} (same : row.unplaced = other.unplaced) :
    row.kind = other.kind ∧ row.parent = other.parent ∧ row.field = other.field ∧
      row.named = other.named := by
  obtain ⟨kind, parent, field, named, -⟩ := Row.mk.inj same
  exact ⟨kind, parent, field, named⟩

namespace Tree

def SameRows (tree other : Tree) : Prop :=
  other.rows.map Row.unplaced = tree.rows.map Row.unplaced

instance (tree other : Tree) : Decidable (tree.SameRows other) :=
  inferInstanceAs (Decidable (_ = _))

/-- The node with the same index; a node for which the tree is too short stands for itself. -/
def nodeAt (other : Tree) (node : Node) : Node :=
  if inside : node.index < other.rows.size then ⟨other, node.index, inside⟩ else node

namespace SameRows

variable {tree other : Tree} (same : tree.SameRows other)

include same

theorem size_eq : other.rows.size = tree.rows.size := by
  rw [← Array.size_map (f := Row.unplaced), same, Array.size_map]

theorem nodeAt_eq {node : Node} (here : node.tree = tree) :
    other.nodeAt node = ⟨other, node.index, by rw [same.size_eq, ← here]; exact node.isLt⟩ := by
  rw [nodeAt, dif_pos]

theorem row_nodeAt {node : Node} (here : node.tree = tree) :
    (other.nodeAt node).row.unplaced = node.row.unplaced := by
  have inside : node.index < other.rows.size := by
    rw [same.size_eq, ← here]
    exact node.isLt
  have there : (other.rows.map Row.unplaced)[node.index]? =
      (tree.rows.map Row.unplaced)[node.index]? := by rw [same]
  subst here
  rw [Array.getElem?_map, Array.getElem?_map, Array.getElem?_eq_getElem inside,
    Array.getElem?_eq_getElem node.isLt] at there
  rw [same.nodeAt_eq rfl]
  exact Option.some.inj there

theorem nodes_eq : other.nodes = tree.nodes.map other.nodeAt := by
  -- Both lists follow the rows, so they agree index by index.
  refine List.ext_getElem ?_ fun i _ _ => ?_
  · simp only [nodes, List.length_map, List.length_finRange, same.size_eq]
  · simp only [nodes, List.getElem_map, List.getElem_finRange]
    exact (same.nodeAt_eq (show Node.tree ⟨tree, i, _⟩ = tree from rfl)).symm

theorem children_nodeAt {node : Node} (here : node.tree = tree) :
    (other.nodeAt node).children = node.children.map other.nodeAt := by
  have place : (other.nodeAt node).tree = other ∧ (other.nodeAt node).index = node.index := by
    rw [same.nodeAt_eq here]
    exact ⟨rfl, rfl⟩
  rw [Node.children, place.1, place.2, same.nodes_eq, List.filter_map, Node.children, here]
  refine congrArg _ (List.filter_congr fun below member => ?_)
  have row := same.row_nodeAt ((tree.mem_nodes_iff below).mp member)
  rw [Function.comp_apply, (Row.unplaced_inj row).2.1]

/-- The node with the same index is a copy. -/
def copy {root : Node} (here : root.tree = tree) : root.Copy (other.nodeAt root) :=
  have inside {node : Node} (member : node ∈ root.subtree) : node.tree = tree :=
    ((root.mem_subtree_iff node).mp member).1.trans here
  have below {node child : Node} (member : node ∈ root.subtree) (is : child ∈ node.children) :
      (other.nodeAt child).row.unplaced = child.row.unplaced :=
    same.row_nodeAt ((Node.tree_eq_of_mem_children is).trans (inside member))
  { place := other.nodeAt
    place_root := rfl
    children := fun _ member => same.children_nodeAt (inside member)
    kind := fun _ member => (Row.unplaced_inj (same.row_nodeAt (inside member))).1
    field := fun _ member _ is => (Row.unplaced_inj (below member is)).2.2.1
    named := fun _ member _ is => (Row.unplaced_inj (below member is)).2.2.2 }

end SameRows

end Tree

end DeclMerge
