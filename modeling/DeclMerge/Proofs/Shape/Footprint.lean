import DeclMerge.Proofs.Shape.Parts
import DeclMerge.Proofs.Syntax.Ranges

/-!
# The bytes that describe a declaration

What a declaration contributes is read off a few ranges of the source, its footprint: of an entry
what stands before its body, of a function what stands in its signature. All other bytes can be
anything, also no text at all, and neither the shapes nor the fault change. If the children of a
node do not overlap, these are at least the bytes of bodies, of initial values and of whatever
stands between the parts of the declaration (`shapes_read_off_footprint`).
-/
namespace DeclMerge

namespace Node

/-- The range of its own that describes a part, besides those of its children. -/
def ownSpan? (kind : String) (part : Node) : Option Span :=
  if kind ∈ Vocabulary.objects ∨ kind ∈ Vocabulary.bodies then part.headSpan?
  else if kind = "enum_declaration" then part.row.span
  else none

/-- The ranges that describe a part of a declaration of this kind. -/
def describing (kind : String) (part : Node) : List Span :=
  (ownSpan? kind part).toList ++
    (rolesRead kind).filterMap fun role => (part.child? role).bind (·.row.span)

/-- The ranges that describe what a statement declares. -/
def footprint (node : Node) : List Span :=
  node.declaration.parts.flatMap (describing node.declaration.kind)

theorem mem_describing_iff (kind : String) (part : Node) (span : Span) :
    span ∈ describing kind part ↔ ownSpan? kind part = some span ∨
      ∃ role ∈ rolesRead kind, ∃ below, part.child? role = some below ∧
        below.row.span = some span := by
  simp [describing, Option.bind_eq_some_iff]

theorem mem_footprint_iff (node : Node) (span : Span) :
    span ∈ node.footprint ↔ ∃ part ∈ node.declaration.parts,
      span ∈ describing node.declaration.kind part := by
  simp [footprint]

/-- The role of the child of a part that does not describe it: a body or an initial value. -/
def idleRole? (kind : String) : Option String :=
  if kind ∈ Vocabulary.objects ∨ kind ∈ Vocabulary.bodies ∨ kind ∈ Vocabulary.functions then
    some "body"
  else if kind ∈ Vocabulary.variableStatements then some "value"
  else none

/-- What stands between the parts of a declaration, comments among it, and the bodies and initial
values in them. -/
def idle (node : Node) : List Node :=
  (node.holder?.toList.flatMap children).filter (· ∉ node.parts) ++
    node.parts.filterMap fun part => (idleRole? node.kind).bind part.child?

theorem mem_idle_iff (node idle : Node) :
    idle ∈ node.idle ↔
      (∃ holder, node.holder? = some holder ∧ idle ∈ holder.children ∧ idle ∉ node.parts) ∨
      ∃ part ∈ node.parts, ∃ role, idleRole? node.kind = some role ∧
        part.child? role = some idle := by
  simp [Node.idle, Option.bind_eq_some_iff, ← exists_and_right, and_assoc]

/-- The text of a child that does not describe a part is not read. -/
theorem idleRole_not_read {kind role : String} (is : idleRole? kind = some role) :
    role ∉ rolesRead kind := by
  have values : ∀ kind ∈ Vocabulary.variableStatements, kind ∉ Vocabulary.functions ∧
      kind ≠ "type_alias_declaration" ∧ kind ≠ "enum_declaration" := by decide
  unfold idleRole? at is
  unfold rolesRead
  split at is
  next bodied =>
    cases is
    split
    · decide
    next other =>
      have function : kind ∈ Vocabulary.functions := by
        rcases bodied with object | body | function
        · exact absurd (.inl object) other
        · exact absurd (.inr body) other
        · exact function
      rw [if_pos function]
      decide
  next bare =>
    split at is
    next statement =>
      cases is
      obtain ⟨function, definition, enumeration⟩ := values kind statement
      have entry : ¬(kind ∈ Vocabulary.objects ∨ kind ∈ Vocabulary.bodies) := by
        tauto
      rw [if_neg entry, if_neg function, if_neg definition, if_neg enumeration]
      decide
    · cases is

theorem field_of_child? {node below : Node} {role : String} (has : node.child? role = some below) :
    below.row.field = some role := by
  simpa using List.find?_some has

end Node

namespace Tree.Ranged

variable {tree : Tree} (ranged : tree.Ranged)

include ranged

/-- Over a source that agrees on the footprint the same is read. -/
theorem shapesOf_withSource {node : Node} (here : node.tree = tree) {source : List UInt8}
    (agree : ∀ span ∈ node.footprint, span.Agree tree.source source) :
    shapesOf (some ((tree.withSource source).nodeAt node)) = shapesOf (some node) := by
  let copy := (sameRows_withSource tree source).copy here
  have declaration := (copy.declaration node.self_mem_subtree).2
  apply copy.shapesOf_eq
  intro part member
  have inside := Node.mem_subtree_of_mem_parts declaration member
  have part_here : part.tree = tree := ((node.mem_subtree_iff part).mp inside).1.trans here
  have described (span : Span) (is : span ∈ Node.describing node.declaration.kind part) :
      span.Agree tree.source source :=
    agree span ((node.mem_footprint_iff span).mpr ⟨part, member, is⟩)
  simp only [Node.mem_describing_iff] at described
  -- A part is read off its own bytes, or their front, and off the texts of its children.
  apply copy.reader_congr inside
  · have own (span : Span) (is : Node.ownSpan? node.declaration.kind part = some span) :=
      described span (.inl is)
    unfold Node.ownSpan? at own
    unfold Node.ownBytes
    split at own
    next entry =>
      rw [if_pos entry, if_pos entry]
      exact ranged.headBytes_withSource part_here own
    next other =>
      rw [if_neg other, if_neg other]
      split at own
      next enumeration =>
        rw [if_pos enumeration, if_pos enumeration]
        exact bytes_withSource part_here own
      next other => rw [if_neg other, if_neg other]
  · intro role read
    apply textOf_withSource part_here
    intro below has span range
    exact described span (.inr ⟨role, read, below, has, range⟩)

section Apart

variable {part : Node} (here : part.tree = tree) {kind : String} {span : Span}
  (described : span ∈ Node.describing kind part)

include here described

/-- What describes a part lies within it. -/
theorem describing_within : ∃ outer, part.row.span = some outer ∧ ∀ position ∈ span,
    position ∈ outer := by
  rcases (Node.mem_describing_iff kind part span).mp described with own | ⟨role, _, below, has, range⟩
  · unfold Node.ownSpan? at own
    split at own
    next entry =>
      obtain ⟨outer, range, cut⟩ := Option.map_eq_some_iff.mp own
      refine ⟨outer, range, ?_⟩
      cases has : part.child? "body" with
      | none =>
        rw [has] at cut
        rw [← cut]
        exact fun position inside => inside
      | some body =>
        obtain ⟨inner, outer', body_range, range', _, ordered, within⟩ :=
          ranged.span_of_child here (Node.mem_children_of_child? has)
        cases range.symm.trans range'
        rw [has] at cut
        dsimp only at cut
        rw [← cut, Node.start_of_span body_range]
        intro position ⟨after, before⟩
        exact ⟨after, by dsimp only at before; omega⟩
    next other =>
      split at own
      · exact ⟨span, own, fun position inside => inside⟩
      · cases own
  · obtain ⟨inner, outer, inner_range, outer_range, after, _, within⟩ :=
      ranged.span_of_child here (Node.mem_children_of_child? has)
    cases range.symm.trans inner_range
    refine ⟨outer, outer_range, ?_⟩
    intro position ⟨behind, before⟩
    exact ⟨by omega, by omega⟩

omit ranged in
/-- What does not describe a part is apart from what does. -/
theorem describing_apart (siblings : tree.SiblingsApart) {role : String} {idle : Node}
    {range : Span} (is : Node.idleRole? kind = some role) (has : part.child? role = some idle)
    (covers : idle.row.span = some range) : range.Apart span := by
  have child := Node.mem_children_of_child? has
  rcases (Node.mem_describing_iff kind part span).mp described with
    own | ⟨other, read, below, reads, span_range⟩
  · unfold Node.ownSpan? at own
    unfold Node.idleRole? at is
    split at own
    next entry =>
      -- The range of an entry ends where its body, the idle child, begins.
      have bodied : kind ∈ Vocabulary.objects ∨ kind ∈ Vocabulary.bodies ∨
          kind ∈ Vocabulary.functions := by tauto
      rw [if_pos bodied] at is
      cases is
      obtain ⟨outer, _, cut⟩ := Option.map_eq_some_iff.mp own
      rw [has] at cut
      dsimp only at cut
      rw [← cut, Span.Apart, Node.start_of_span covers]
      dsimp only
      omega
    next other =>
      split at own
      next enumeration =>
        have bare : Node.idleRole? "enum_declaration" = none := by decide
        rw [enumeration] at is
        cases bare.symm.trans is
      · cases own
  · have different : idle ≠ below := by
      rintro rfl
      cases (Node.field_of_child? has).symm.trans (Node.field_of_child? reads)
      exact Node.idleRole_not_read is read
    exact siblings part ((tree.mem_nodes_iff part).mpr here) idle child below
      (Node.mem_children_of_child? reads) different range covers span span_range

end Apart

/-- What stands between the parts of a declaration, and what in them does not describe them, is
apart from the footprint. -/
theorem idle_apart (siblings : tree.SiblingsApart) {node : Node} (here : node.tree = tree)
    {idle : Node} (member : idle ∈ node.declaration.idle) {range : Span}
    (covers : idle.row.span = some range) {span : Span} (described : span ∈ node.footprint) :
    range.Apart span := by
  have declaration_here := node.tree_declaration.trans here
  obtain ⟨part, counts, describes⟩ := (node.mem_footprint_iff span).mp described
  have inside {part : Node} (counts : part ∈ node.declaration.parts) : part.tree = tree :=
    ((node.declaration.mem_subtree_iff part).mp
      (Node.mem_subtree_of_mem_parts (Node.self_mem_subtree _) counts)).1.trans declaration_here
  obtain ⟨outer, part_range, within⟩ := ranged.describing_within (inside counts) describes
  -- A place apart from the part is apart from what describes it.
  have beside {left : Node} {side : Span} (different : left ≠ part)
      (side_range : left.row.span = some side) (reaches : ∀ position ∈ range, position ∈ side)
      (siblings_of : ∃ holder : Node, holder.tree = tree ∧ left ∈ holder.children ∧
        part ∈ holder.children) : range.Apart span := by
    obtain ⟨holder, holder_here, first, second⟩ := siblings_of
    have apart := siblings holder ((tree.mem_nodes_iff holder).mpr holder_here) left first part
      second different side side_range outer part_range
    rw [Span.apart_iff] at apart ⊢
    intro position covered describes
    exact apart position (reaches position covered) (within position describes)
  rcases (node.declaration.mem_idle_iff idle).mp member with
    ⟨holder, holds, child, between⟩ | ⟨other, counts', role, is, has⟩
  · -- What stands between the parts is a sibling of this one.
    rcases Node.holder_of_mem_parts counts with ⟨holder', holds', part_child⟩ | ⟨none, _⟩
    · cases holds.symm.trans holds'
      have holder_here : holder.tree = tree :=
        (Node.tree_eq_of_mem_children part_child).symm.trans (inside counts)
      refine beside ?_ covers (fun position covered => covered)
        ⟨holder, holder_here, child, part_child⟩
      rintro rfl
      exact between counts
    · cases none.symm.trans holds
  · -- A body or an initial value lies in this part, or in a sibling of it.
    by_cases same : other = part
    · rw [same] at has
      exact describing_apart (inside counts) describes siblings is has covers
    · obtain ⟨inner, side, idle_range, side_range, after, _, before⟩ :=
        ranged.span_of_child (inside counts') (Node.mem_children_of_child? has)
      cases covers.symm.trans idle_range
      refine beside same side_range ?_ ?_
      · intro position ⟨begun, ended⟩
        exact ⟨by omega, by omega⟩
      · rcases Node.holder_of_mem_parts counts with ⟨holder, holds, part_child⟩ | ⟨none, alone⟩
        · rcases Node.holder_of_mem_parts counts' with ⟨holder', holds', child⟩ | ⟨none, _⟩
          · cases holds.symm.trans holds'
            exact ⟨holder, (Node.tree_eq_of_mem_children part_child).symm.trans (inside counts),
              child, part_child⟩
          · cases none.symm.trans holds
        · rcases Node.holder_of_mem_parts counts' with ⟨_, holds, _⟩ | ⟨_, alone'⟩
          · cases none.symm.trans holds
          · exact absurd (alone'.trans alone.symm) same

end Tree.Ranged

/-- The shapes of a statement, or the fault that keeps it from being read, are decided by the
bytes of its footprint. So if siblings do not overlap, bodies, initial values and what stands
between the parts can be replaced by any bytes whatever. -/
theorem shapes_read_off_footprint {tree : Tree} (ranged : tree.Ranged) {node : Node}
    (here : node.tree = tree) :
    (∀ source, (∀ span ∈ node.footprint, span.Agree tree.source source) →
      shapesOf (some ((tree.withSource source).nodeAt node)) = shapesOf (some node)) ∧
    (tree.SiblingsApart → ∀ source,
      (∀ position, (∀ idle ∈ node.declaration.idle, ∀ range ∈ idle.row.span, position ∉ range) →
        tree.source[position]? = source[position]?) →
      shapesOf (some ((tree.withSource source).nodeAt node)) = shapesOf (some node)) := by
  constructor
  · intro source agree
    exact ranged.shapesOf_withSource here agree
  · intro siblings source elsewhere
    apply ranged.shapesOf_withSource here
    intro span described position inside
    apply elsewhere
    intro idle member range covers covered
    have apart := ranged.idle_apart siblings here member covers described
    exact (Span.apart_iff range span).mp apart position covered inside

/-- `class A{f(){x}/*c*/}`. -/
def commented : Tree where
  file := 0
  source := "class A\x7bf()\x7bx\x7d/*c*/\x7d".toUTF8.toList
  rows := #[
    ⟨"program", none, none, true, some ⟨0, 20⟩⟩,
    ⟨"class_declaration", some 0, none, true, some ⟨0, 20⟩⟩,
    ⟨"type_identifier", some 1, some "name", true, some ⟨6, 7⟩⟩,
    ⟨"class_body", some 1, some "body", true, some ⟨7, 20⟩⟩,
    ⟨"method_definition", some 3, none, true, some ⟨8, 14⟩⟩,
    ⟨"property_identifier", some 4, some "name", true, some ⟨8, 9⟩⟩,
    ⟨"formal_parameters", some 4, some "parameters", true, some ⟨9, 11⟩⟩,
    ⟨"statement_block", some 4, some "body", true, some ⟨11, 14⟩⟩,
    ⟨"comment", some 3, none, true, some ⟨14, 19⟩⟩]

/-- The same with bytes that are no text in place of the body of the method and of the comment. -/
def blotted : List UInt8 :=
  "class A\x7bf()".toUTF8.toList ++ List.replicate 8 0xFF ++ "\x7d".toUTF8.toList

theorem shapes_read_off_footprint_blotted :
    let declared : Node := ⟨commented, 1, by decide⟩
    let body : Node := ⟨commented.withSource blotted, 7, by decide⟩
    commented.Ranged ∧ commented.SiblingsApart ∧ body.text.isOk = false ∧
    shapesOf (some ((commented.withSource blotted).nodeAt declared)) =
      .ok [⟨"method_definition", some "f", "f()"⟩] := by
  intro declared body
  have ranged : commented.Ranged := by decide +kernel
  have siblings : commented.SiblingsApart := by decide +kernel
  refine ⟨ranged, siblings, by decide +kernel, ?_⟩
  rw [(shapes_read_off_footprint ranged rfl).2 siblings blotted]
  · decide +kernel
  · intro position elsewhere
    by_cases inside : position < 20
    · have checked : ∀ position < 20, (∀ idle ∈ declared.declaration.idle,
          ∀ range ∈ idle.row.span, position ∉ range) →
          commented.source[position]? = blotted[position]? := by decide +kernel
      exact checked position inside elsewhere
    · have length : commented.source.length = 20 := by decide +kernel
      have length' : blotted.length = 20 := by decide +kernel
      rw [List.getElem?_eq_none (by omega), List.getElem?_eq_none (by omega)]

end DeclMerge
