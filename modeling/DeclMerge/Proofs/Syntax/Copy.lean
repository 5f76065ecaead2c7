import DeclMerge.Syntax.Declaration
import Mathlib.Data.List.Find

/-!
# The same nodes in another place

A copy of a node says which nodes stand, in the same tree or in another one, for the node and for
all that is below it. Kinds, roles and the order of children are those of the original; how the
node itself hangs in its tree does not count. So every walk that only goes down takes the same
way in the copy: to the declaration inside of wrappers (`Copy.declaration`) and to the node that
names it (`Copy.nameNode?`).
-/
namespace DeclMerge.Node

/-- The node and all that is below it, in the order of the rows. -/
def subtree (root : Node) : List Node :=
  root.tree.nodes.filter fun node => root ∈ node :: node.ancestors

theorem mem_subtree_iff (root node : Node) :
    node ∈ root.subtree ↔ node.tree = root.tree ∧ root ∈ node :: node.ancestors := by
  simp only [subtree, List.mem_filter, Tree.mem_nodes_iff, decide_eq_true_eq]

theorem self_mem_subtree (root : Node) : root ∈ root.subtree :=
  (root.mem_subtree_iff root).mpr ⟨rfl, List.mem_cons_self⟩

theorem mem_subtree_of_mem_children {root node below : Node} (inside : node ∈ root.subtree)
    (child : below ∈ node.children) : below ∈ root.subtree := by
  obtain ⟨tree, above⟩ := (root.mem_subtree_iff node).mp inside
  refine (root.mem_subtree_iff below).mpr ⟨(tree_eq_of_mem_children child).trans tree, ?_⟩
  rw [ancestors_of_parent ((node.mem_children_iff below).mp child)]
  exact List.mem_cons_of_mem below above

/-- Where every node of one subtree stands in another one. Going down is the same on both sides,
so no two nodes have one place and no place is left out. -/
structure Copy (root twin : Node) where
  place : Node → Node
  place_root : place root = twin
  children : ∀ node ∈ root.subtree, (place node).children = node.children.map place
  kind : ∀ node ∈ root.subtree, (place node).kind = node.kind
  field : ∀ node ∈ root.subtree, ∀ below ∈ node.children,
    (place below).row.field = below.row.field
  named : ∀ node ∈ root.subtree, ∀ below ∈ node.children,
    (place below).row.named = below.row.named

namespace Copy

variable {root twin node : Node} (copy : root.Copy twin) (inside : node ∈ root.subtree)

include inside

theorem namedChildren : (copy.place node).namedChildren = node.namedChildren.map copy.place := by
  rw [Node.namedChildren, copy.children node inside, List.filter_map, Node.namedChildren]
  exact congrArg _ (List.filter_congr (copy.named node inside))

theorem child? (field : String) :
    (copy.place node).child? field = (node.child? field).map copy.place := by
  rw [Node.child?, copy.children node inside, List.find?_map, Node.child?]
  refine congrArg _ (List.find?_congr fun below child => ?_)
  rw [Function.comp_apply, copy.field node inside below child]

theorem kind_of_namedChildren {below : Node} (child : below ∈ node.namedChildren) :
    (copy.place below).kind = below.kind :=
  copy.kind below (mem_subtree_of_mem_children inside (mem_children_of_namedChildren child))

/-- Named children that are picked out by their kinds. -/
theorem filter_namedChildren (counts : String → Bool) :
    (copy.place node).namedChildren.filter (counts ·.kind) =
      (node.namedChildren.filter (counts ·.kind)).map copy.place := by
  rw [copy.namedChildren inside, List.filter_map]
  refine congrArg _ (List.filter_congr fun below child => ?_)
  rw [Function.comp_apply, copy.kind_of_namedChildren inside child]

theorem find?_namedChildren (counts : String → Bool) :
    (copy.place node).namedChildren.find? (counts ·.kind) =
      (node.namedChildren.find? (counts ·.kind)).map copy.place := by
  rw [copy.namedChildren inside, List.find?_map]
  refine congrArg _ (List.find?_congr fun below child => ?_)
  rw [Function.comp_apply, copy.kind_of_namedChildren inside child]

theorem held? : (copy.place node).held? = node.held?.map copy.place := by
  unfold Node.held?
  rw [copy.kind node inside]
  split
  · rw [Option.map_or, copy.child? inside, copy.find?_namedChildren inside (· ≠ "comment")]
  · rfl

/-- Stepping through wrappers leads to the same declaration. -/
theorem declaration : (copy.place node).declaration = copy.place node.declaration ∧
    node.declaration ∈ root.subtree := by
  refine declaration_induction
    (motive := fun node inner => node ∈ root.subtree →
      (copy.place node).declaration = copy.place inner ∧ inner ∈ root.subtree)
    (fun node bare inside => ?_) (fun node inner holds further inside => ?_) node inside
  · have alike := copy.held? inside
    rw [bare, Option.map_none] at alike
    exact ⟨declaration_of_held?_none alike, inside⟩
  · have alike := copy.held? inside
    rw [holds, Option.map_some] at alike
    rw [declaration_of_held?_some alike]
    exact further (mem_subtree_of_mem_children inside (mem_children_of_held? holds))

theorem nameNode? : (copy.place node).nameNode? = node.nameNode?.map copy.place := by
  obtain ⟨same, below⟩ := copy.declaration inside
  unfold Node.nameNode?
  dsimp only
  rw [same, copy.kind _ below]
  split
  · rw [copy.find?_namedChildren below (· = "variable_declarator")]
    cases first : node.declaration.namedChildren.find? (·.kind = "variable_declarator") with
    | none => rfl
    | some declarator =>
      have child := mem_children_of_namedChildren (List.mem_of_find?_eq_some first)
      exact copy.child? (mem_subtree_of_mem_children below child) "name"
  · exact copy.child? below "name"

end Copy

end DeclMerge.Node
