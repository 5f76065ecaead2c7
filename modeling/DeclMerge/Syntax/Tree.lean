import DeclMerge.Text.Utf8

/-!
# Syntax trees

A tree is a table of rows over the bytes of one source file. A row names the row it hangs under,
which always stands before it; so going up ends, and a child has a larger index than its parent.
`mem_children_iff` says that the two directions agree: the children of a node are the nodes whose
parent it is.
-/
namespace DeclMerge

/-- A range of bytes, the end excluded. -/
structure Span where
  start : Nat
  stop : Nat
  deriving DecidableEq, Repr

/-- One node as the parser lists it. -/
structure Row where
  kind : String
  parent : Option Nat
  -- The role it plays in its parent.
  field : Option String
  -- Whether the grammar names it, as opposed to a keyword or a mark.
  named : Bool
  span : Option Span
  deriving DecidableEq, Repr

/-- Every parent stands before its children. -/
def ParentsFirst (rows : Array Row) : Prop :=
  ∀ i (h : i < rows.size), ∀ above ∈ rows[i].parent, above < i

instance (rows : Array Row) : Decidable (ParentsFirst rows) :=
  inferInstanceAs (Decidable (∀ i (_ : i < rows.size), ∀ above ∈ rows[i].parent, above < i))

/-- The rows of one source file, told apart from other files by `file`. -/
structure Tree where
  file : Nat
  source : List UInt8
  rows : Array Row
  parents_first : ParentsFirst rows := by decide
  deriving DecidableEq

/-- The tree with these rows, if it is one. -/
def Tree.ofRows? (file : Nat) (source : List UInt8) (rows : Array Row) : Option Tree :=
  if h : ParentsFirst rows then some ⟨file, source, rows, h⟩ else none

/-- A place in a tree. -/
structure Node where
  tree : Tree
  index : Nat
  isLt : index < tree.rows.size
  deriving DecidableEq

/-- Every node, in the order of the rows. -/
def Tree.nodes (tree : Tree) : List Node :=
  (List.finRange tree.rows.size).map fun i : Fin _ => ⟨tree, i, i.isLt⟩

theorem Tree.mem_nodes_iff (tree : Tree) (node : Node) : node ∈ tree.nodes ↔ node.tree = tree := by
  simp only [Tree.nodes, List.mem_map, List.mem_finRange, true_and]
  constructor
  · rintro ⟨i, rfl⟩
    rfl
  · rintro rfl
    exact ⟨⟨node.index, node.isLt⟩, rfl⟩

namespace Node

def row (node : Node) : Row := getElem node.tree.rows node.index node.isLt

def kind (node : Node) : String := node.row.kind

theorem lt_of_parent (node : Node) {above : Nat} (h : node.row.parent = some above) :
    above < node.index := node.tree.parents_first node.index node.isLt above h

def parent? (node : Node) : Option Node :=
  match h : node.row.parent with
  | none => none
  | some above => some ⟨node.tree, above, Nat.lt_trans (node.lt_of_parent h) node.isLt⟩

theorem parent?_eq_some_iff (node above : Node) :
    node.parent? = some above ↔
      node.tree = above.tree ∧ node.row.parent = some above.index := by
  obtain ⟨tree, index, isLt⟩ := above
  unfold parent?
  split
  · next root => simp [root]
  · next place here =>
    simp only [Option.some.injEq, Node.mk.injEq, here]

theorem parent?_index_lt {node above : Node} (h : node.parent? = some above) :
    above.index < node.index :=
  node.lt_of_parent ((node.parent?_eq_some_iff above).mp h).2

/-- The nodes strictly above, the nearest first. -/
def ancestors (node : Node) : List Node :=
  match _ : node.parent? with
  | none => []
  | some above => above :: above.ancestors
termination_by node.index
decreasing_by exact parent?_index_lt ‹_›

theorem ancestors_of_root {node : Node} (root : node.parent? = none) : node.ancestors = [] := by
  rw [ancestors]
  split <;> simp_all

theorem ancestors_of_parent {node above : Node} (h : node.parent? = some above) :
    node.ancestors = above :: above.ancestors := by
  rw [ancestors]
  split <;> simp_all

/-- The nodes directly below, in the order of the rows. -/
def children (node : Node) : List Node :=
  node.tree.nodes.filter fun below => below.row.parent = some node.index

theorem mem_children_iff (node below : Node) :
    below ∈ node.children ↔ below.parent? = some node := by
  simp only [children, List.mem_filter, Tree.mem_nodes_iff, decide_eq_true_eq,
    parent?_eq_some_iff]

theorem tree_eq_of_mem_children {node below : Node} (h : below ∈ node.children) :
    below.tree = node.tree :=
  ((below.parent?_eq_some_iff node).mp ((node.mem_children_iff below).mp h)).1

theorem index_lt_of_mem_children {node below : Node} (h : below ∈ node.children) :
    node.index < below.index :=
  parent?_index_lt ((node.mem_children_iff below).mp h)

/-- The children that the grammar names. -/
def namedChildren (node : Node) : List Node := node.children.filter (·.row.named)

/-- The first child with the role `field`, named by the grammar or not. -/
def child? (node : Node) (field : String) : Option Node :=
  node.children.find? (·.row.field = some field)

theorem mem_children_of_namedChildren {node below : Node} (h : below ∈ node.namedChildren) :
    below ∈ node.children := (List.mem_filter.mp h).1

theorem mem_children_of_child? {node below : Node} {field : String}
    (h : node.child? field = some below) : below ∈ node.children := List.mem_of_find?_eq_some h

/-- Where the node starts in the source; a node without a range counts from zero. -/
def start (node : Node) : Nat := (node.row.span.map Span.start).getD 0

/-- The bytes that the node covers; none without a range. -/
def bytes (node : Node) : List UInt8 :=
  match node.row.span with
  | none => []
  | some span => (node.tree.source.drop span.start).take (span.stop - span.start)

/-- The text that the node covers. -/
def text (node : Node) : Except Utf8.Fault String := Utf8.decodeString node.bytes

end Node

/-- The text of a node that may be missing: no node has no text. -/
def textOf : Option Node → Except Utf8.Fault String
  | none => .ok ""
  | some node => node.text

end DeclMerge
