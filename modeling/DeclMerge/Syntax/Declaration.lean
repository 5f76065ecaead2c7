import DeclMerge.Syntax.Tree
import DeclMerge.Syntax.Vocabulary

/-!
# Declarations and their names

A declaration may stand inside `export` and `declare` statements. `declaration` steps through
them, one wrapper at a time: into the child with the role `declaration`, or else into the first
named child that is no comment. A wrapper with neither stands for itself. Each step goes to a
larger index, so the walk ends; it ends at a node it would not leave (`held?_declaration`).
-/
namespace DeclMerge.Node

/-- What a wrapper holds. -/
def held? (node : Node) : Option Node :=
  if node.kind ∈ Vocabulary.wrappers then
    (node.child? "declaration").or (node.namedChildren.find? (·.kind ≠ "comment"))
  else none

theorem mem_children_of_held? {node inner : Node} (h : node.held? = some inner) :
    inner ∈ node.children := by
  unfold held? at h
  split at h
  · rcases Option.or_eq_some_iff.mp h with role | ⟨_, first⟩
    · exact mem_children_of_child? role
    · exact mem_children_of_namedChildren (List.mem_of_find?_eq_some first)
  · cases h

/-- The number of rows from a node to the end of its tree. -/
def depthBound (node : Node) : Nat := node.tree.rows.size - node.index

theorem depthBound_lt {node below : Node} (h : below ∈ node.children) :
    below.depthBound < node.depthBound := by
  have tree := tree_eq_of_mem_children h
  have index := index_lt_of_mem_children h
  have bound := below.isLt
  rw [depthBound, depthBound]
  rw [tree] at bound ⊢
  omega

/-- The declaration that a statement holds. -/
def declaration (node : Node) : Node :=
  match _ : node.held? with
  | none => node
  | some inner => inner.declaration
termination_by node.depthBound
decreasing_by exact depthBound_lt (mem_children_of_held? ‹_›)

theorem declaration_of_held?_none {node : Node} (bare : node.held? = none) :
    node.declaration = node := by
  rw [declaration]
  split <;> simp_all

theorem declaration_of_held?_some {node inner : Node} (h : node.held? = some inner) :
    node.declaration = inner.declaration := by
  rw [declaration]
  split <;> simp_all

/-- To prove a fact of a node's declaration, prove it of bare nodes and step through wrappers. -/
theorem declaration_induction {motive : Node → Node → Prop}
    (bare : ∀ node, node.held? = none → motive node node)
    (wrapped : ∀ node inner, node.held? = some inner → motive inner inner.declaration →
      motive node inner.declaration) (node : Node) : motive node node.declaration := by
  match h : node.held? with
  | none => rw [declaration_of_held?_none h]; exact bare node h
  | some inner =>
    rw [declaration_of_held?_some h]
    exact wrapped node inner h (declaration_induction bare wrapped inner)
termination_by node.depthBound
decreasing_by exact depthBound_lt (mem_children_of_held? h)

theorem held?_declaration (node : Node) : node.declaration.held? = none :=
  declaration_induction (motive := fun _ inner => inner.held? = none)
    (fun _ bare => bare) (fun _ _ _ ends => ends) node

/-- The node that names a declaration; of several variables the first gives the name. -/
def nameNode? (node : Node) : Option Node :=
  let inner := node.declaration
  if inner.kind ∈ Vocabulary.variableStatements then
    (inner.namedChildren.find? (·.kind = "variable_declarator")).bind (·.child? "name")
  else inner.child? "name"

end DeclMerge.Node
