import DeclMerge.Proofs.Text.Utf8
import DeclMerge.Shape.Contribution

/-!
# Trees over text

If the source is text and the nodes cover whole characters, each within its parent, then every
text that is read off the tree is there: the text of a node is the part of the source that the
node covers, and an entry of a body is cut to what stands between its start and the start of its
body. What follows from the texts being there, and not from where they stand, is proved of
legible trees.
-/
namespace DeclMerge

section Answers

variable {ε α β : Type}

theorem isOk_bind {first : Except ε α} {next : α → Except ε β} (answered : first.isOk = true)
    (goes_on : ∀ value, (next value).isOk = true) : (first >>= next).isOk = true := by
  cases first with
  | error fault => cases answered
  | ok value => exact goes_on value

theorem isOk_map (change : α → β) (result : Except ε α) :
    (result.map change).isOk = result.isOk := by
  cases result <;> rfl

theorem isOk_mapM {read : α → Except ε β} {list : List α}
    (answered : ∀ x ∈ list, (read x).isOk = true) : (list.mapM read).isOk = true := by
  induction list with
  | nil => rfl
  | cons x rest ih =>
    rw [List.mapM_cons]
    refine isOk_bind (answered x List.mem_cons_self) fun _ => ?_
    exact isOk_bind (ih fun y member => answered y (List.mem_cons_of_mem x member)) fun _ => rfl

end Answers

/-- The source is a text, and every node covers whole characters of it, inside of its parent. -/
structure Tree.Reads (tree : Tree) (text : List Char) : Prop where
  source : tree.source = Utf8.encode text
  covers : ∀ node ∈ tree.nodes, ∃ span ∈ node.row.span, span.start ≤ span.stop ∧
    Utf8.IsBoundary text span.start ∧ Utf8.IsBoundary text span.stop
  nested : ∀ node ∈ tree.nodes, ∀ above ∈ node.parent?, ∀ inner ∈ node.row.span,
    ∀ outer ∈ above.row.span, outer.start ≤ inner.start ∧ inner.stop ≤ outer.stop

instance (tree : Tree) (text : List Char) : Decidable (tree.Reads text) :=
  decidable_of_iff (_ ∧ _ ∧ _)
    ⟨fun ⟨source, covers, nested⟩ => ⟨source, covers, nested⟩,
      fun ⟨source, covers, nested⟩ => ⟨source, covers, nested⟩⟩

/-- Every text that is read off the tree is UTF-8. -/
structure Tree.Legible (tree : Tree) : Prop where
  text : ∀ node : Node, node.tree = tree → node.text.isOk = true
  head : ∀ entry : Node, entry.tree = tree → (Utf8.decodeString entry.headBytes).isOk = true

namespace Node

theorem tree_eq_of_child? {node below : Node} {field : String}
    (h : node.child? field = some below) :
    below.tree = node.tree := tree_eq_of_mem_children (mem_children_of_child? h)

theorem tree_eq_of_parent? {node above : Node} (h : node.parent? = some above) :
    above.tree = node.tree := ((node.parent?_eq_some_iff above).mp h).1.symm

theorem tree_eq_of_mem_ancestors {node above : Node} (h : above ∈ node.ancestors) :
    above.tree = node.tree := by
  cases parent : node.parent? with
  | none =>
    rw [ancestors_of_root parent] at h
    cases h
  | some next =>
    rw [ancestors_of_parent parent] at h
    rcases List.mem_cons.mp h with rfl | further
    · exact tree_eq_of_parent? parent
    · have lower := parent?_index_lt parent
      rw [tree_eq_of_mem_ancestors further, tree_eq_of_parent? parent]
termination_by node.index

theorem tree_declaration (node : Node) : node.declaration.tree = node.tree :=
  declaration_induction (motive := fun node inner => inner.tree = node.tree) (fun _ _ => rfl)
    (fun _ _ held same => same.trans (tree_eq_of_mem_children (mem_children_of_held? held))) node

theorem tree_eq_of_nameNode? {node name : Node} (h : node.nameNode? = some name) :
    name.tree = node.tree := by
  rw [← node.tree_declaration]
  unfold nameNode? at h
  dsimp only at h
  split at h
  · obtain ⟨declarator, first, named⟩ := Option.bind_eq_some_iff.mp h
    rw [tree_eq_of_child? named]
    exact tree_eq_of_mem_children (mem_children_of_namedChildren (List.mem_of_find?_eq_some first))
  · exact tree_eq_of_child? h

theorem isOk_mapM_namedChildren {tree : Tree} {node : Node} (here : node.tree = tree)
    {counts : Node → Bool} {read : Node → Except Utf8.Fault Shape}
    (answered : ∀ below, below.tree = tree → (read below).isOk = true) :
    ((node.namedChildren.filter counts).mapM read).isOk = true := by
  refine isOk_mapM fun below member => answered below ?_
  have named := (List.mem_filter.mp member).1
  rw [tree_eq_of_mem_children (mem_children_of_namedChildren named), here]

theorem start_of_span {node : Node} {span : Span} (h : node.row.span = some span) :
    node.start = span.start := by
  simp [start, h]

theorem bytes_of_span {node : Node} {span : Span} (h : node.row.span = some span) :
    node.bytes = (node.tree.source.drop span.start).take (span.stop - span.start) := by
  simp only [bytes, h]

theorem signature_of_head {entry : Node} {head : String} (answered : entry.entryShape.isOk = true)
    (read : Utf8.decodeString entry.headBytes = .ok head) :
    entry.entryShape.map Shape.signature = .ok (Text.normalize head) := by
  unfold entryShape at answered ⊢
  rw [read] at answered ⊢
  generalize (entry.child? "name").mapM text = named at answered ⊢
  cases named with
  | error fault => cases answered
  | ok name => rfl

end Node

namespace Tree.Reads

variable {tree : Tree} {text : List Char}

theorem text_eq (reads : tree.Reads text) {node : Node} (here : node.tree = tree) :
    ∃ span ∈ node.row.span, ∃ part, Utf8.Slice text span.start span.stop part ∧
      node.text = .ok (.ofList part) := by
  obtain ⟨span, ranged, ordered, first, last⟩ :=
    reads.covers node ((tree.mem_nodes_iff node).mpr here)
  obtain ⟨part, slice⟩ := Utf8.exists_slice first last ordered
  refine ⟨span, ranged, part, slice, ?_⟩
  rw [Node.text, Node.bytes_of_span ranged, here, reads.source, slice.decodeString]

/-- The body starts within its entry, so the cut takes what stands before the body. -/
theorem head_eq (reads : tree.Reads text) {entry body : Node} (here : entry.tree = tree)
    (has : entry.child? "body" = some body) :
    ∃ part, Utf8.Slice text entry.start body.start part ∧
      Utf8.decodeString entry.headBytes = .ok (.ofList part) := by
  have below : body ∈ tree.nodes :=
    (tree.mem_nodes_iff body).mpr ((Node.tree_eq_of_child? has).trans here)
  obtain ⟨outer, outerRange, _, first, _⟩ :=
    reads.covers entry ((tree.mem_nodes_iff entry).mpr here)
  obtain ⟨inner, innerRange, ordered, last, _⟩ := reads.covers body below
  have parent : body.parent? = some entry :=
    (entry.mem_children_iff body).mp (Node.mem_children_of_child? has)
  obtain ⟨after, within⟩ := reads.nested body below entry parent inner innerRange outer outerRange
  obtain ⟨part, slice⟩ := Utf8.exists_slice first last after
  rw [Node.start_of_span outerRange, Node.start_of_span innerRange]
  refine ⟨part, slice, ?_⟩
  have offset : (inner.start : Int) - outer.start = .ofNat (inner.start - outer.start) := by
    simp only [Int.ofNat_eq_natCast]
    omega
  have cut : entry.headBytes =
      ((Utf8.encode text).drop outer.start).take (inner.start - outer.start) := by
    simp only [Node.headBytes, has]
    rw [Node.start_of_span outerRange, Node.start_of_span innerRange, offset, bytesBefore,
      Node.bytes_of_span outerRange, here, reads.source, List.take_take, Nat.min_eq_left (by omega)]
  rw [cut, slice.decodeString]

theorem legible (reads : tree.Reads text) : tree.Legible where
  text node here := by
    obtain ⟨_, _, _, _, read⟩ := reads.text_eq here
    rw [read]
    rfl
  head entry here := by
    cases has : entry.child? "body" with
    | some body =>
      obtain ⟨_, _, read⟩ := reads.head_eq here has
      rw [read]
      rfl
    | none =>
      obtain ⟨_, _, _, _, read⟩ := reads.text_eq here
      rw [Node.text] at read
      simp only [Node.headBytes, has, read]
      rfl

end Tree.Reads

namespace Tree.Legible

variable {tree : Tree}

theorem textOf (legible : tree.Legible) {node : Option Node}
    (here : ∀ place ∈ node, place.tree = tree) : (DeclMerge.textOf node).isOk = true := by
  cases node with
  | none => rfl
  | some place => exact legible.text place (here place rfl)

theorem textOf_child? (legible : tree.Legible) {node : Node} (here : node.tree = tree)
    (field : String) : (DeclMerge.textOf (node.child? field)).isOk = true :=
  legible.textOf fun _ has => (Node.tree_eq_of_child? has).trans here

theorem entryShape (legible : tree.Legible) {entry : Node} (here : entry.tree = tree) :
    entry.entryShape.isOk = true := by
  refine isOk_bind ?_ fun _ => isOk_bind (legible.head entry here) fun _ => rfl
  cases named : entry.child? "name" with
  | none => rfl
  | some name =>
    rw [Option.mapM_some]
    exact isOk_bind (legible.text name ((Node.tree_eq_of_child? named).trans here)) fun _ => rfl

theorem functionShape (legible : tree.Legible) {function : Node} (here : function.tree = tree) :
    function.functionShape.isOk = true :=
  isOk_bind (legible.textOf_child? here _) fun _ =>
    isOk_bind (legible.textOf_child? here _) fun _ =>
      isOk_bind (legible.textOf_child? here _) fun _ => rfl

theorem aliasShape (legible : tree.Legible) {definition : Node} (here : definition.tree = tree) :
    definition.aliasShape.isOk = true :=
  isOk_bind (legible.textOf_child? here _) fun _ =>
    isOk_bind (legible.textOf_child? here _) fun _ => rfl

theorem enumShape (legible : tree.Legible) {entry : Node} (here : entry.tree = tree) :
    entry.enumShape.isOk = true := by
  refine isOk_bind (legible.text _ ?_) fun _ => isOk_bind (legible.text entry here) fun _ => rfl
  cases named : entry.child? "name" with
  | none => exact here
  | some name => exact (Node.tree_eq_of_child? named).trans here

theorem variableShape (legible : tree.Legible) {declarator : Node}
    (here : declarator.tree = tree) : declarator.variableShape.isOk = true :=
  isOk_bind (legible.textOf_child? here _) fun _ =>
    isOk_bind (legible.textOf_child? here _) fun _ => rfl

/-- Every kind of declaration reads texts of its tree only. -/
theorem bareShapes (legible : tree.Legible) {node : Node} (here : node.tree = tree) :
    node.bareShapes.isOk = true := by
  have ofBody {read : Node → Except Utf8.Fault (List Shape)}
      (answered : ∀ body, body.tree = tree → (read body).isOk = true) :
      (((node.child? "body").map read).getD (.ok [])).isOk = true := by
    cases has : node.child? "body" with
    | none => rfl
    | some body => exact answered body ((Node.tree_eq_of_child? has).trans here)
  unfold Node.bareShapes
  split
  · exact ofBody fun body inside => Node.isOk_mapM_namedChildren inside fun _ => legible.entryShape
  split
  · exact Node.isOk_mapM_namedChildren here fun _ => legible.entryShape
  split
  · rw [isOk_map]
    exact legible.functionShape here
  split
  · rw [isOk_map]
    exact legible.aliasShape here
  split
  · exact ofBody fun body inside => Node.isOk_mapM_namedChildren inside fun _ => legible.enumShape
  split
  · exact Node.isOk_mapM_namedChildren here fun _ => legible.variableShape
  · rfl

theorem shapesOf (legible : tree.Legible) {raw : Option Node}
    (here : ∀ node ∈ raw, node.tree = tree) : (DeclMerge.shapesOf raw).isOk = true := by
  cases raw with
  | none => rfl
  | some node => exact legible.bareShapes (node.tree_declaration.trans (here node rfl))

end Tree.Legible

end DeclMerge
