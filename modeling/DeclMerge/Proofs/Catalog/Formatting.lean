import DeclMerge.Proofs.Catalog.Again
import DeclMerge.Proofs.Shape.Parts
import DeclMerge.Proofs.Syntax.Legible
import DeclMerge.Proofs.Syntax.SameRows
import DeclMerge.Proofs.Text.Utf8
import DeclMerge.Proofs.Text.Words

/-!
# One declaration in several spellings

Signatures are kept in normal form, names as they are written. So a declaration that is spelled
with other blanks contributes shapes that differ in nothing but the spelling of their names
(`respelled_in_names`): the same shapes if no name has a blank in it, and further shapes where a
name has, as `[ k ]` and `[  k ]` do.
-/
namespace DeclMerge

namespace Utf8

/-- Both can be read, and the texts are related. -/
def BothRead (related : String → String → Prop) : Except Fault String → Except Fault String → Prop
  | .ok left, .ok right => related left right
  | _, _ => False

instance (related : String → String → Prop) [DecidableRel related]
    (left right : Except Fault String) : Decidable (BothRead related left right) :=
  match left, right with
  | .ok left, .ok right => inferInstanceAs (Decidable (related left right))
  | .ok _, .error _ => inferInstanceAs (Decidable False)
  | .error _, _ => inferInstanceAs (Decidable False)

theorem BothRead.exists {related : String → String → Prop} {first second : Except Fault String}
    (read : BothRead related first second) :
    ∃ left right, first = .ok left ∧ second = .ok right ∧ related left right := by
  match first, second, read with
  | .ok left, .ok right, holds => exact ⟨left, right, rfl, rfl, holds⟩

end Utf8

open Text (Respelled)

/-- The same tree with other blanks: each node can be read and reads the same up to the blanks
between its words. These texts do not say where in an entry its body stands; it stands behind the
same characters, blanks not counted. -/
structure Tree.Reformats (tree other : Tree) : Prop where
  rows : tree.SameRows other
  texts : ∀ node ∈ tree.nodes, Utf8.BothRead Respelled node.text (other.nodeAt node).text
  cuts : ∀ node ∈ tree.nodes, (node.child? "body").isSome →
    Utf8.BothRead (fun left right => Text.solidCount left.toList = Text.solidCount right.toList)
      (Utf8.decodeString node.headBytes) (Utf8.decodeString (other.nodeAt node).headBytes)

/-- Shapes that differ in the spelling of their names alone. -/
structure Shape.Respelled (left right : Shape) : Prop where
  kind : left.kind = right.kind
  name : Option.Rel Text.Respelled left.name right.name
  signature : left.signature = right.signature

theorem bytesBefore_append (offset : Int) (bytes : List UInt8) :
    ∃ after, bytesBefore offset bytes ++ after = bytes := by
  cases offset with
  | ofNat count => exact ⟨bytes.drop count, List.take_append_drop ..⟩
  | negSucc count => exact ⟨bytes.drop (bytes.length - (count + 1)), List.take_append_drop ..⟩

/-- What stands before the body is the front of the text of the entry. -/
theorem Node.text_eq_head_append {entry : Node} {text head : String}
    (read : entry.text = .ok text) (cut : Utf8.decodeString entry.headBytes = .ok head) :
    ∃ tail, text.toList = head.toList ++ tail := by
  have decoded {bytes : List UInt8} {text : String}
      (read : Utf8.decodeString bytes = .ok text) : Utf8.decode bytes = .ok text.toList := by
    rw [Utf8.decodeString] at read
    cases chars : Utf8.decode bytes with
    | error fault =>
      rw [chars] at read
      cases read
    | ok chars' =>
      rw [chars] at read
      cases read
      rw [String.toList_ofList]
  have whole := decoded read
  have front := decoded cut
  have split : ∃ after, entry.headBytes ++ after = entry.bytes := by
    unfold headBytes
    split
    · exact ⟨[], List.append_nil _⟩
    · exact bytesBefore_append ..
  obtain ⟨after, split⟩ := split
  rw [← split] at whole
  exact Utf8.exists_append_of_decode whole front

namespace Tree.Reformats

variable {tree other : Tree} (reformats : tree.Reformats other) {node : Node}
  (here : node.tree = tree)

include reformats here

theorem text : ∃ left right, node.text = .ok left ∧ (other.nodeAt node).text = .ok right ∧
    Respelled left right :=
  (reformats.texts node ((tree.mem_nodes_iff node).mpr here)).exists

theorem child? (field : String) :
    (other.nodeAt node).child? field = (node.child? field).map other.nodeAt :=
  (reformats.rows.copy here).child? node.self_mem_subtree field

theorem textOf_child? (field : String) :
    ∃ left right, textOf (node.child? field) = .ok left ∧
      textOf ((other.nodeAt node).child? field) = .ok right ∧ Respelled left right := by
  rw [reformats.child? here]
  cases has : node.child? field with
  | none => exact ⟨"", "", rfl, rfl, .empty⟩
  | some below => exact reformats.text ((Node.tree_eq_of_child? has).trans here)

theorem head : ∃ left right, Utf8.decodeString node.headBytes = .ok left ∧
    Utf8.decodeString (other.nodeAt node).headBytes = .ok right ∧
    Text.words left.toList = Text.words right.toList := by
  obtain ⟨left, right, read, read', same⟩ := reformats.text here
  cases has : node.child? "body" with
  | none =>
    have has' : (other.nodeAt node).child? "body" = none := by rw [reformats.child? here, has]; rfl
    refine ⟨left, right, ?_, ?_, same.words⟩
    · rw [Node.headBytes, has]
      exact read
    · rw [Node.headBytes, has']
      exact read'
  | some body =>
    -- The heads are the fronts of texts with the same words, up to the same character.
    obtain ⟨head, head', cut, cut', count⟩ :=
      (reformats.cuts node ((tree.mem_nodes_iff node).mpr here) (by rw [has]; rfl)).exists
    obtain ⟨tail, split⟩ := Node.text_eq_head_append read cut
    obtain ⟨tail', split'⟩ := Node.text_eq_head_append read' cut'
    have whole : Text.words (head.toList ++ tail) = Text.words (head'.toList ++ tail') := by
      rw [← split, ← split', same.words]
    exact ⟨head, head', cut, cut', Text.words_of_cut whole count⟩

theorem entryShape : ∃ left right, node.entryShape = .ok left ∧
    (other.nodeAt node).entryShape = .ok right ∧ left.Respelled right := by
  obtain ⟨head, head', cut, cut', same⟩ := reformats.head here
  have kind : (other.nodeAt node).kind = node.kind :=
    (reformats.rows.copy here).kind node node.self_mem_subtree
  have signature := Text.normalize_congr same
  unfold Node.entryShape
  rw [cut, cut', kind, reformats.child? here]
  cases has : node.child? "name" with
  | none => exact ⟨_, _, rfl, rfl, rfl, .none, signature⟩
  | some name =>
    obtain ⟨left, right, read, read', spelled⟩ :=
      reformats.text ((Node.tree_eq_of_child? has).trans here)
    simp only [Option.map_some, Option.mapM_some, read, read']
    exact ⟨_, _, rfl, rfl, rfl, .some spelled, signature⟩

theorem functionShape : ∃ left right, node.functionShape = .ok left ∧
    (other.nodeAt node).functionShape = .ok right ∧ left.Respelled right := by
  obtain ⟨types, types', read, read', first⟩ := reformats.textOf_child? here "type_parameters"
  obtain ⟨inputs, inputs', input, input', second⟩ := reformats.textOf_child? here "parameters"
  obtain ⟨result, result', answer, answer', third⟩ := reformats.textOf_child? here "return_type"
  unfold Node.functionShape
  rw [read, read', input, input', answer, answer']
  exact ⟨_, _, rfl, rfl, rfl, .none,
    Text.normalize_congr ((first.append second).append third).words⟩

theorem aliasShape : ∃ left right, node.aliasShape = .ok left ∧
    (other.nodeAt node).aliasShape = .ok right ∧ left.Respelled right := by
  obtain ⟨types, types', read, read', first⟩ := reformats.textOf_child? here "type_parameters"
  obtain ⟨value, value', is, is', second⟩ := reformats.textOf_child? here "value"
  unfold Node.aliasShape
  rw [read, read', is, is']
  refine ⟨_, _, rfl, rfl, rfl, .none, Text.normalize_congr ?_⟩
  rw [Text.words_equation, Text.words_equation, first.words, second.words]

theorem enumShape : ∃ left right, node.enumShape = .ok left ∧
    (other.nodeAt node).enumShape = .ok right ∧ left.Respelled right := by
  obtain ⟨whole, whole', read, read', same⟩ := reformats.text here
  have signature := Text.normalize_congr same.words
  unfold Node.enumShape
  rw [read, read', reformats.child? here]
  cases has : node.child? "name" with
  | none =>
    simp only [Option.map_none, Option.getD_none, read, read']
    exact ⟨_, _, rfl, rfl, rfl, .some same, signature⟩
  | some name =>
    obtain ⟨left, right, is, is', spelled⟩ :=
      reformats.text ((Node.tree_eq_of_child? has).trans here)
    simp only [Option.map_some, Option.getD_some, is, is']
    exact ⟨_, _, rfl, rfl, rfl, .some spelled, signature⟩

theorem variableShape : ∃ left right, node.variableShape = .ok left ∧
    (other.nodeAt node).variableShape = .ok right ∧ left.Respelled right := by
  obtain ⟨name, name', read, read', spelled⟩ := reformats.textOf_child? here "name"
  obtain ⟨type, type', is, is', same⟩ := reformats.textOf_child? here "type"
  unfold Node.variableShape
  rw [read, read', is, is']
  exact ⟨_, _, rfl, rfl, rfl, .some spelled, Text.normalize_congr same.words⟩

theorem reader (kind : String) : ∃ left right, Node.reader kind node = .ok left ∧
    Node.reader kind (other.nodeAt node) = .ok right ∧ left.Respelled right := by
  unfold Node.reader
  split
  · exact reformats.entryShape here
  split
  · exact reformats.functionShape here
  split
  · exact reformats.aliasShape here
  split
  · exact reformats.enumShape here
  · exact reformats.variableShape here

/-- A declaration of a reformatted tree contributes the same shapes up to their names' spelling. -/
theorem shapesOf : ∃ shapes respelled, DeclMerge.shapesOf (some node) = .ok shapes ∧
    DeclMerge.shapesOf (some (other.nodeAt node)) = .ok respelled ∧
    List.Forall₂ Shape.Respelled shapes respelled := by
  refine (reformats.rows.copy here).forall₂_shapesOf fun part member => ?_
  have inside := Node.mem_subtree_of_mem_parts (Node.self_mem_subtree _) member
  have tree_eq := ((node.declaration.mem_subtree_iff part).mp inside).1
  exact reformats.reader (tree_eq.trans ((Node.tree_declaration node).trans here)) _

end Tree.Reformats

namespace Shape

variable {shapes respelled : List Shape}

theorem Respelled.eq_of_name {left right : Shape} (spelled : left.Respelled right)
    (same : right.name = left.name) : right = left := by
  obtain ⟨kind, name, signature⟩ := right
  obtain ⟨kind_eq, _, signature_eq⟩ := spelled
  cases left
  cases same
  cases kind_eq
  cases signature_eq
  rfl

theorem Respelled.name_eq_of_solid {left right : Shape} (spelled : left.Respelled right)
    (solid : ∀ name ∈ left.name, ∀ c ∈ name.toList, Text.isBlank c = false) :
    right.name = left.name := by
  obtain ⟨_, related, _⟩ := spelled
  revert solid related
  generalize left.name = name
  generalize right.name = other
  intro solid related
  cases related with
  | none => rfl
  | some spelled => rw [spelled.eq_of_solid (solid _ rfl)]

/-- Respelled shapes are the same if their names are. -/
theorem eq_iff_names_eq (spelled : List.Forall₂ Shape.Respelled shapes respelled) :
    respelled = shapes ↔ respelled.map Shape.name = shapes.map Shape.name := by
  refine ⟨congrArg _, fun names => ?_⟩
  induction spelled with
  | nil => rfl
  | cons first _ ih =>
    rw [List.map_cons, List.map_cons] at names
    obtain ⟨name, further⟩ := List.cons.inj names
    rw [first.eq_of_name name, ih further]

theorem eq_of_solid (spelled : List.Forall₂ Shape.Respelled shapes respelled)
    (solid : ∀ shape ∈ shapes, ∀ name ∈ shape.name, ∀ c ∈ name.toList,
      Text.isBlank c = false) : respelled = shapes := by
  induction spelled with
  | nil => rfl
  | cons first _ ih =>
    rw [first.eq_of_name (first.name_eq_of_solid (solid _ List.mem_cons_self)),
      ih fun shape member => solid shape (List.mem_cons_of_mem _ member)]

theorem exists_of_respelled (spelled : List.Forall₂ Shape.Respelled shapes respelled)
    {shape : Shape} (member : shape ∈ respelled) : ∃ known ∈ shapes, known.Respelled shape := by
  induction spelled with
  | nil => cases member
  | cons first _ ih =>
    rcases List.mem_cons.mp member with rfl | further
    · exact ⟨_, List.mem_cons_self, first⟩
    · obtain ⟨known, old, same⟩ := ih further
      exact ⟨known, List.mem_cons_of_mem _ old, same⟩

end Shape

namespace Catalog

/-- A declaration in another spelling contributes, shape by shape, what differs from the first
one in the spelling of the name at most; so it contributes the same if no name has a blank in it.
Once the first one was accepted, the other one is answered with its item under the same key. A
shape that comes new is a known one with another name, and if the names agree, nothing is new. -/
theorem respelled_in_names {tree other : Tree} (reformats : tree.Reformats other) {node : Node}
    (here : node.tree = tree) :
    ∃ shapes respelled, shapesOf (some node) = .ok shapes ∧
      shapesOf (some (other.nodeAt node)) = .ok respelled ∧
      List.Forall₂ Shape.Respelled shapes respelled ∧
      (respelled = shapes ↔ respelled.map Shape.name = shapes.map Shape.name) ∧
      ((∀ shape ∈ shapes, ∀ name ∈ shape.name, ∀ c ∈ name.toList, Text.isBlank c = false) →
        respelled = shapes) ∧
      ∀ (session : Option Session) (store : Store) (past between : List Step)
        (first again : Declaring) (accepted : Accepted),
        first.raw = some node → again.raw = some (other.nodeAt node) →
        Moment.accepted? ⟨(State.fresh session store).run past, first.step⟩ = some accepted →
        let later := (((State.fresh session store).run past).after first.step).run between
        (again.naming later).key = .ok accepted.key →
        (again.outcome later).result = .ok accepted.item ∧
        (∀ shape ∈ (later.after again.step).store.shapes accepted.item,
          shape ∉ later.store.shapes accepted.item →
          ∃ known ∈ later.store.shapes accepted.item,
            known.Respelled shape ∧ known.name ≠ shape.name) ∧
        (respelled.map Shape.name = shapes.map Shape.name →
          again.AddsNothing later accepted.key accepted.item) := by
  obtain ⟨shapes, respelled, read, read_again, spelled⟩ := reformats.shapesOf here
  refine ⟨shapes, respelled, read, read_again, spelled, Shape.eq_iff_names_eq spelled,
    Shape.eq_of_solid spelled, ?_⟩
  intro session store past between first again accepted raw raw_again told later named
  obtain ⟨answered, after, carries, adds_nothing⟩ := declared_again session store past between told
    (by rw [raw, read]) (by rw [raw_again, read_again]) named
  refine ⟨answered, ?_, ?_⟩
  · intro shape member new
    have comes : shape ∈ respelled := by
      rw [after, Store.shapes, Store.content_absorb, if_pos rfl] at member
      rcases Content.mem_of_mem_absorb member with old | comes
      · exact absurd old new
      · exact comes
    obtain ⟨known, old, same⟩ := Shape.exists_of_respelled spelled comes
    have there := carries.2 known old
    refine ⟨known, there, same, fun name => new ?_⟩
    rw [same.eq_of_name name.symm]
    exact there
  · intro names
    apply adds_nothing
    rw [(Shape.eq_iff_names_eq spelled).mpr names]
    exact fun _ member => member

/-- The tree of `class A{[ k ](){}}`. -/
def computing : Tree where
  file := 0
  source := "class A\x7b[ k ]()\x7b\x7d\x7d".toUTF8.toList
  rows := #[
    ⟨"program", none, none, true, some ⟨0, 18⟩⟩,
    ⟨"class_declaration", some 0, none, true, some ⟨0, 18⟩⟩,
    ⟨"type_identifier", some 1, some "name", true, some ⟨6, 7⟩⟩,
    ⟨"class_body", some 1, some "body", true, some ⟨7, 18⟩⟩,
    ⟨"method_definition", some 3, none, true, some ⟨8, 17⟩⟩,
    ⟨"computed_property_name", some 4, some "name", true, some ⟨8, 13⟩⟩,
    ⟨"identifier", some 5, none, true, some ⟨10, 11⟩⟩,
    ⟨"formal_parameters", some 4, some "parameters", true, some ⟨13, 15⟩⟩,
    ⟨"statement_block", some 4, some "body", true, some ⟨15, 17⟩⟩]

/-- The same with one more blank, `class A{[  k ](){}}`. -/
def computingWide : Tree where
  file := 1
  source := "class A\x7b[  k ]()\x7b\x7d\x7d".toUTF8.toList
  rows := #[
    ⟨"program", none, none, true, some ⟨0, 19⟩⟩,
    ⟨"class_declaration", some 0, none, true, some ⟨0, 19⟩⟩,
    ⟨"type_identifier", some 1, some "name", true, some ⟨6, 7⟩⟩,
    ⟨"class_body", some 1, some "body", true, some ⟨7, 19⟩⟩,
    ⟨"method_definition", some 3, none, true, some ⟨8, 18⟩⟩,
    ⟨"computed_property_name", some 4, some "name", true, some ⟨8, 14⟩⟩,
    ⟨"identifier", some 5, none, true, some ⟨11, 12⟩⟩,
    ⟨"formal_parameters", some 4, some "parameters", true, some ⟨14, 16⟩⟩,
    ⟨"statement_block", some 4, some "body", true, some ⟨16, 18⟩⟩]

/-- One method, of which two shapes are kept. -/
theorem respelled_in_names_computed :
    let first : Declaring := ⟨none, some ⟨computing, 1, by decide⟩, "A", none⟩
    let again : Declaring := ⟨none, some ⟨computingWide, 1, by decide⟩, "A", none⟩
    let before := (State.fresh none ∅).run []
    let later := (before.after first.step).run []
    computing.Reformats computingWide ∧
    (∃ accepted, Moment.accepted? ⟨before, first.step⟩ = some accepted ∧
      (again.outcome later).result = .ok accepted.item ∧ accepted.item = 0) ∧
    later.store.shapes 0 = [⟨"method_definition", some "[ k ]", "[ k ]()"⟩] ∧
    (later.after again.step).store.shapes 0 =
      [⟨"method_definition", some "[ k ]", "[ k ]()"⟩,
        ⟨"method_definition", some "[  k ]", "[ k ]()"⟩] := by
  intro first again before later
  have reformats : computing.Reformats computingWide :=
    ⟨by decide +kernel, by decide +kernel, by decide +kernel⟩
  have told : (Moment.accepted? ⟨before, first.step⟩).map (fun accepted =>
      (accepted.key, accepted.item)) = some ("A", 0) := by decide +kernel
  obtain ⟨accepted, told, named⟩ := Option.map_eq_some_iff.mp told
  obtain ⟨key, item⟩ := Prod.mk.inj named
  obtain ⟨_, _, _, _, _, _, _, runs⟩ :=
    respelled_in_names reformats (show Node.tree ⟨computing, 1, by decide⟩ = computing from rfl)
  obtain ⟨answered, _⟩ := runs none ∅ [] [] first again accepted rfl rfl told (by rw [key]; rfl)
  refine ⟨reformats, ⟨accepted, told, answered, item⟩, ?_, ?_⟩
  · decide +kernel
  · decide +kernel

end Catalog

end DeclMerge
