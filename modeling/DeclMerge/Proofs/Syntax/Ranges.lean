import DeclMerge.Proofs.Syntax.Legible
import DeclMerge.Proofs.Syntax.SameRows
import DeclMerge.Shape.Contribution

/-!
# The same rows over another source

The bytes of a node are those of the source at the positions that the node covers. So a node reads
alike over two sources that agree there (`Tree.bytes_withSource`); an entry of a body without that
body reads alike as soon as they agree from its start to the start of the body
(`Tree.headBytes_withSource`).
-/
namespace DeclMerge

/-- The positions in a range. -/
instance : Membership Nat Span := ⟨fun span position => span.start ≤ position ∧ position < span.stop⟩

theorem Span.mem_iff (span : Span) (position : Nat) :
    position ∈ span ↔ span.start ≤ position ∧ position < span.stop := Iff.rfl

instance (span : Span) (position : Nat) : Decidable (position ∈ span) :=
  decidable_of_iff _ (span.mem_iff position).symm

/-- No position lies in both ranges. -/
def Span.Apart (left right : Span) : Prop :=
  min left.stop right.stop ≤ max left.start right.start

instance (left right : Span) : Decidable (left.Apart right) := inferInstanceAs (Decidable (_ ≤ _))

theorem Span.apart_iff (left right : Span) :
    left.Apart right ↔ ∀ position ∈ left, position ∉ right := by
  simp only [Apart, mem_iff]
  constructor
  · intro apart position inside there
    omega
  · intro apart
    by_contra meet
    -- If they meet, they do where the later one starts.
    exact apart (max left.start right.start) (by omega) (by omega)

/-- The sources have the same bytes at these positions, as far as they reach. -/
def Span.Agree (span : Span) (source other : List UInt8) : Prop :=
  ∀ position ∈ span, source[position]? = other[position]?

theorem Span.Agree.slice_eq {span : Span} {source other : List UInt8}
    (agree : span.Agree source other) :
    (source.drop span.start).take (span.stop - span.start) =
      (other.drop span.start).take (span.stop - span.start) := by
  apply List.ext_getElem?
  intro i
  rw [List.getElem?_take, List.getElem?_take]
  split
  next inside =>
    rw [List.getElem?_drop, List.getElem?_drop]
    exact agree (span.start + i) ⟨by omega, by omega⟩
  · rfl

/-- Every node has a range, and it lies within the range of the node above. -/
structure Tree.Ranged (tree : Tree) : Prop where
  covers : ∀ node ∈ tree.nodes, ∃ span ∈ node.row.span, span.start ≤ span.stop
  nested : ∀ node ∈ tree.nodes, ∀ above ∈ node.parent?, ∀ inner ∈ node.row.span,
    ∀ outer ∈ above.row.span, outer.start ≤ inner.start ∧ inner.stop ≤ outer.stop

instance (tree : Tree) : Decidable tree.Ranged :=
  decidable_of_iff (_ ∧ _) ⟨fun ⟨covers, nested⟩ => ⟨covers, nested⟩,
    fun ⟨covers, nested⟩ => ⟨covers, nested⟩⟩

/-- The children of a node do not overlap. -/
def Tree.SiblingsApart (tree : Tree) : Prop :=
  ∀ node ∈ tree.nodes, ∀ left ∈ node.children, ∀ right ∈ node.children, left ≠ right →
    ∀ span ∈ left.row.span, ∀ other ∈ right.row.span, span.Apart other

instance (tree : Tree) : Decidable tree.SiblingsApart := inferInstanceAs (Decidable (∀ _, _))

namespace Tree.Ranged

variable {tree : Tree} (ranged : tree.Ranged) {node : Node} (here : node.tree = tree)

include ranged here

theorem exists_span : ∃ span, node.row.span = some span ∧ span.start ≤ span.stop :=
  ranged.covers node ((tree.mem_nodes_iff node).mpr here)

theorem span_of_child {below : Node} (child : below ∈ node.children) :
    ∃ inner outer, below.row.span = some inner ∧ node.row.span = some outer ∧
      outer.start ≤ inner.start ∧ inner.start ≤ inner.stop ∧ inner.stop ≤ outer.stop := by
  have inside : below.tree = tree := (Node.tree_eq_of_mem_children child).trans here
  obtain ⟨outer, outer_range, _⟩ := ranged.exists_span here
  obtain ⟨inner, inner_range, ordered⟩ := ranged.exists_span inside
  obtain ⟨after, within⟩ := ranged.nested below ((tree.mem_nodes_iff below).mpr inside) node
    ((node.mem_children_iff below).mp child) inner inner_range outer outer_range
  exact ⟨inner, outer, inner_range, outer_range, after, ordered, within⟩

end Tree.Ranged

namespace Tree

variable {tree : Tree} {source : List UInt8}

/-- The same rows over another source. -/
def withSource (tree : Tree) (source : List UInt8) : Tree := { tree with source }

theorem sameRows_withSource (tree : Tree) (source : List UInt8) :
    tree.SameRows (tree.withSource source) := rfl

variable {node : Node} (here : node.tree = tree)

include here

theorem row_withSource : ((tree.withSource source).nodeAt node).row = node.row := by
  subst here
  rw [(sameRows_withSource node.tree source).nodeAt_eq rfl]
  rfl

theorem start_withSource : ((tree.withSource source).nodeAt node).start = node.start := by
  rw [Node.start, row_withSource here, Node.start]

theorem tree_withSource :
    ((tree.withSource source).nodeAt node).tree = tree.withSource source := by
  rw [(sameRows_withSource tree source).nodeAt_eq here]

theorem bytes_withSource (agree : ∀ span ∈ node.row.span, span.Agree tree.source source) :
    ((tree.withSource source).nodeAt node).bytes = node.bytes := by
  rw [Node.bytes, Node.bytes, row_withSource here, tree_withSource here, here]
  cases has : node.row.span with
  | none => rfl
  | some span => exact (agree span has).slice_eq.symm

theorem child?_withSource (role : String) :
    ((tree.withSource source).nodeAt node).child? role =
      (node.child? role).map (tree.withSource source).nodeAt :=
  ((sameRows_withSource tree source).copy here).child? node.self_mem_subtree role

theorem textOf_withSource (role : String) (agree : ∀ below ∈ node.child? role,
      ∀ span ∈ below.row.span, span.Agree tree.source source) :
    textOf (((tree.withSource source).nodeAt node).child? role) = textOf (node.child? role) := by
  rw [child?_withSource here]
  cases has : node.child? role with
  | none => rfl
  | some below =>
    have same := bytes_withSource ((Node.tree_eq_of_child? has).trans here) (agree below has)
    rw [Option.map_some, textOf, textOf, Node.text, same, Node.text]

end Tree

/-- The range of an entry up to its body. -/
def Node.headSpan? (entry : Node) : Option Span :=
  entry.row.span.map fun span =>
    match entry.child? "body" with
    | none => span
    | some body => { span with stop := body.start }

/-- The body starts within the entry, so the cut falls where the body starts. -/
theorem Tree.Ranged.headBytes_withSource {tree : Tree} (ranged : tree.Ranged) {entry : Node}
    (here : entry.tree = tree) {source : List UInt8}
    (agree : ∀ span ∈ entry.headSpan?, span.Agree tree.source source) :
    ((tree.withSource source).nodeAt entry).headBytes = entry.headBytes := by
  unfold Node.headSpan? at agree
  unfold Node.headBytes
  rw [Tree.child?_withSource here]
  cases has : entry.child? "body" with
  | none =>
    apply Tree.bytes_withSource here
    simpa [has] using agree
  | some body =>
    obtain ⟨inner, outer, body_range, entry_range, after, _⟩ :=
      ranged.span_of_child here (Node.mem_children_of_child? has)
    have inside := (Node.tree_eq_of_child? has).trans here
    have offset : (inner.start : Int) - outer.start = .ofNat (inner.start - outer.start) := by
      simp only [Int.ofNat_eq_natCast]
      omega
    -- The front of an entry is a slice of the source, from the entry's start to the body's.
    have heads (source : List UInt8) :
        bytesBefore (.ofNat (inner.start - outer.start))
            ((source.drop outer.start).take (outer.stop - outer.start)) =
          ((source.drop outer.start).take (inner.start - outer.start)).take
            (outer.stop - outer.start) := by
      rw [bytesBefore, List.take_take, List.take_take, Nat.min_comm]
    have front := (agree ⟨outer.start, inner.start⟩
      (by simp [has, entry_range, Node.start_of_span body_range])).slice_eq
    have twin_range : ((tree.withSource source).nodeAt entry).row.span = some outer := by
      rw [Tree.row_withSource here, entry_range]
    rw [Option.map_some]
    dsimp only
    rw [Tree.start_withSource inside, Tree.start_withSource here, Node.start_of_span body_range,
      Node.start_of_span entry_range, offset, Node.bytes_of_span entry_range,
      Node.bytes_of_span twin_range,
      Tree.tree_withSource here, here, heads, heads]
    exact congrArg _ front.symm

end DeclMerge
