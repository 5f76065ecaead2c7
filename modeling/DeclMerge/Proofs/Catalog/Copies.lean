import DeclMerge.Proofs.Catalog.Again
import DeclMerge.Proofs.Shape.Parts

/-!
# One declaration in several places

What a declaration contributes is read off the bytes that its nodes cover and off the distance
from an entry to its body; neither changes when all of it is moved. So a copy that covers the same
bytes contributes the same shapes, or has the same fault, wherever it stands and whatever is
around it (`copies_contribute_alike`).
-/
namespace DeclMerge

namespace Node.Copy

/-- The copy covers the same bytes, node by node, and its nodes start as far from its root as the
nodes of the original from theirs. -/
structure Verbatim {root twin : Node} (copy : root.Copy twin) : Prop where
  bytes : ∀ node ∈ root.subtree, (copy.place node).bytes = node.bytes
  start : ∀ node ∈ root.subtree,
    ((copy.place node).start : Int) - twin.start = node.start - root.start

namespace Verbatim

variable {root twin node : Node} {copy : root.Copy twin} (verbatim : copy.Verbatim)
  (inside : node ∈ root.subtree)

include verbatim inside

theorem text_eq : (copy.place node).text = node.text := by
  rw [text, verbatim.bytes node inside, text]

theorem textOf_child? (field : String) :
    textOf ((copy.place node).child? field) = textOf (node.child? field) := by
  rw [copy.child? inside]
  cases has : node.child? field with
  | none => rfl
  | some below => exact verbatim.text_eq (mem_subtree_of_child? inside has)

/-- The cut depends on the distance from the entry to its body, not on where they are. -/
theorem headBytes_eq : (copy.place node).headBytes = node.headBytes := by
  unfold headBytes
  rw [copy.child? inside, verbatim.bytes node inside]
  cases has : node.child? "body" with
  | none => rfl
  | some body =>
    have entry_start := verbatim.start node inside
    have body_start := verbatim.start body (mem_subtree_of_child? inside has)
    have distance : ((copy.place body).start : Int) - (copy.place node).start =
        body.start - node.start := by omega
    rw [Option.map_some]
    dsimp only
    rw [distance]

theorem reader_eq (kind : String) : reader kind (copy.place node) = reader kind node := by
  apply copy.reader_congr inside kind
  · unfold ownBytes
    rw [verbatim.headBytes_eq inside, verbatim.bytes node inside]
  · exact fun role _ => verbatim.textOf_child? inside role

end Verbatim

end Node.Copy

namespace Catalog

/-- A declaration and its copy stand in their places at the same nodes, have the same name node
and contribute the same shapes, or cannot be read for the same fault. So once one of them was
accepted, the other adds nothing under its key. -/
theorem copies_contribute_alike {root twin : Node} (copy : root.Copy twin)
    (verbatim : copy.Verbatim) :
    twin.declaration = copy.place root.declaration ∧
    twin.nameNode? = root.nameNode?.map copy.place ∧
    shapesOf (some twin) = shapesOf (some root) ∧
    ∀ (session : Option Session) (store : Store) (past between : List Step)
      (first again : Declaring) (accepted : Accepted),
      first.raw = some root → again.raw = some twin →
      Moment.accepted? ⟨(State.fresh session store).run past, first.step⟩ = some accepted →
      let later := (((State.fresh session store).run past).after first.step).run between
      (again.naming later).key = .ok accepted.key →
      again.AddsNothing later accepted.key accepted.item := by
  have declaration := (copy.declaration root.self_mem_subtree).1
  have name := copy.nameNode? root.self_mem_subtree
  rw [copy.place_root] at declaration name
  have alike : shapesOf (some twin) = shapesOf (some root) := by
    have below := (copy.declaration root.self_mem_subtree).2
    exact copy.shapesOf_eq fun part member =>
      verbatim.reader_eq (Node.mem_subtree_of_mem_parts below member) _
  refine ⟨declaration, name, alike, ?_⟩
  intro session store past between first again accepted raw raw_again told later named
  obtain ⟨_, shapes, read⟩ := shapes_of_accepted told
  have read_again : shapesOf again.raw = .ok shapes := by rw [raw_again, alike, ← raw, read]
  exact (declared_again session store past between told read read_again named).2.2.2
    fun shape member => member

/-- `export class C{f(){}}`. -/
def exporting : Tree where
  file := 0
  source := "export class C\x7bf()\x7b\x7d\x7d".toUTF8.toList
  rows := #[
    ⟨"program", none, none, true, some ⟨0, 21⟩⟩,
    ⟨"export_statement", some 0, none, true, some ⟨0, 21⟩⟩,
    ⟨"class_declaration", some 1, some "declaration", true, some ⟨7, 21⟩⟩,
    ⟨"type_identifier", some 2, some "name", true, some ⟨13, 14⟩⟩,
    ⟨"class_body", some 2, some "body", true, some ⟨14, 21⟩⟩,
    ⟨"method_definition", some 4, none, true, some ⟨15, 20⟩⟩,
    ⟨"property_identifier", some 5, some "name", true, some ⟨15, 16⟩⟩,
    ⟨"formal_parameters", some 5, some "parameters", true, some ⟨16, 18⟩⟩,
    ⟨"statement_block", some 5, some "body", true, some ⟨18, 20⟩⟩]

/-- The same in a namespace of another file, `namespace N{export class C{f(){}}}`. -/
def exportingInside : Tree where
  file := 1
  source := "namespace N\x7bexport class C\x7bf()\x7b\x7d\x7d\x7d".toUTF8.toList
  rows := #[
    ⟨"program", none, none, true, some ⟨0, 34⟩⟩,
    ⟨"internal_module", some 0, none, true, some ⟨0, 34⟩⟩,
    ⟨"identifier", some 1, some "name", true, some ⟨10, 11⟩⟩,
    ⟨"statement_block", some 1, some "body", true, some ⟨11, 34⟩⟩,
    ⟨"export_statement", some 3, none, true, some ⟨12, 33⟩⟩,
    ⟨"class_declaration", some 4, some "declaration", true, some ⟨19, 33⟩⟩,
    ⟨"type_identifier", some 5, some "name", true, some ⟨25, 26⟩⟩,
    ⟨"class_body", some 5, some "body", true, some ⟨26, 33⟩⟩,
    ⟨"method_definition", some 7, none, true, some ⟨27, 32⟩⟩,
    ⟨"property_identifier", some 8, some "name", true, some ⟨27, 28⟩⟩,
    ⟨"formal_parameters", some 8, some "parameters", true, some ⟨28, 30⟩⟩,
    ⟨"statement_block", some 8, some "body", true, some ⟨30, 32⟩⟩]

def exported : Node := ⟨exporting, 1, by decide⟩

def exportedInside : Node := ⟨exportingInside, 4, by decide⟩

def moved : exported.Copy exportedInside where
  place node :=
    if inside : node.index + 3 < exportingInside.rows.size then
      ⟨exportingInside, node.index + 3, inside⟩
    else node
  place_root := by decide +kernel
  children := by decide +kernel
  kind := by decide +kernel
  field := by decide +kernel
  named := by decide +kernel

theorem copies_contribute_alike_moved :
    let first : Declaring := ⟨none, some exported, "C", none⟩
    let again : Declaring := ⟨none, some exportedInside, "C", none⟩
    let before := (State.fresh none ∅).run []
    let after := (before.after first.step).run []
    moved.Verbatim ∧
    shapesOf (some exportedInside) = .ok [⟨"method_definition", some "f", "f()"⟩] ∧
    ∃ accepted : Accepted, Moment.accepted? ⟨before, first.step⟩ = some accepted ∧
      again.AddsNothing after accepted.key accepted.item := by
  intro first again before after
  have verbatim : moved.Verbatim := ⟨by decide +kernel, by decide +kernel⟩
  obtain ⟨_, _, alike, adds⟩ := copies_contribute_alike moved verbatim
  refine ⟨verbatim, ?_, ?_⟩
  · rw [alike]
    decide +kernel
  · have key : (Moment.accepted? ⟨before, first.step⟩).map Accepted.key = some "C" := by
      decide +kernel
    obtain ⟨accepted, told, named⟩ := Option.map_eq_some_iff.mp key
    refine ⟨accepted, told, adds none ∅ [] [] first again accepted rfl rfl told ?_⟩
    rw [named]
    rfl

end Catalog

end DeclMerge
