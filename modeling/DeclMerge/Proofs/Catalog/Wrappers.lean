import DeclMerge.Proofs.Catalog.Again
import DeclMerge.Symbol.Lexical

/-!
# Wrappers

A statement that only wraps a declaration stands for it: whatever is asked of the statement is
asked of the declaration inside, which the way through the wrappers finds again from any place on
it. So a declaration that is met in its wrapper and then by itself is met twice, under one key, and
adds nothing the second time (`wrappers_transparent`).
-/
namespace DeclMerge

namespace Node

/-- A node holds nothing if it is no wrapper, or one with neither a child that is marked as the
declaration nor a named child but comments. -/
theorem held?_eq_none_iff (node : Node) :
    node.held? = none ↔ node.kind ∉ Vocabulary.wrappers ∨
      node.child? "declaration" = none ∧ ∀ child ∈ node.namedChildren, child.kind = "comment" := by
  unfold held?
  split
  next wrapper => simp [wrapper]
  next bare => simp [bare]

theorem mem_wrappers_of_held? {node inner : Node} (holds : node.held? = some inner) :
    node.kind ∈ Vocabulary.wrappers := by
  by_contra bare
  rw [(held?_eq_none_iff node).mpr (.inl bare)] at holds
  cases holds

theorem declaration_idem (node : Node) : node.declaration.declaration = node.declaration :=
  declaration_of_held?_none (held?_declaration node)

/-- Going up from the declaration leads through wrappers only, and the last of them is the node. -/
theorem declaration_below (node : Node) :
    ∃ between, node.declaration.ancestors = between ++ node.ancestors ∧
      (∀ above ∈ between, above.kind ∈ Vocabulary.wrappers) ∧
      (node.declaration :: between).getLast? = some node := by
  refine declaration_induction (motive := fun node inner => ∃ between,
    inner.ancestors = between ++ node.ancestors ∧
      (∀ above ∈ between, above.kind ∈ Vocabulary.wrappers) ∧
      (inner :: between).getLast? = some node) ?_ ?_ node
  · intro node _
    exact ⟨[], rfl, by simp, rfl⟩
  · intro node inner holds further
    -- One more wrapper comes last on the way up.
    obtain ⟨between, up, wrappers, _⟩ := further
    have parent : inner.parent? = some node :=
      (node.mem_children_iff inner).mp (mem_children_of_held? holds)
    refine ⟨between ++ [node], ?_, ?_, ?_⟩
    · rw [up, ancestors_of_parent parent, List.append_assoc, List.singleton_append]
    · intro above member
      rcases List.mem_append.mp member with here | here
      · exact wrappers above here
      · rw [List.mem_singleton.mp here]
        exact mem_wrappers_of_held? holds
    · rw [← List.cons_append, List.getLast?_concat]

theorem nameNode?_declaration (node : Node) : node.declaration.nameNode? = node.nameNode? := by
  unfold nameNode?
  rw [declaration_idem]

end Node

theorem shapesOf_declaration (node : Node) :
    shapesOf (some node.declaration) = shapesOf (some node) := by
  rw [shapesOf, node.declaration_idem, shapesOf]

/-- Of a statement a key depends on its name node alone. -/
theorem Scope.keyOf_congr {raw other : Option Node}
    (same : raw.bind Node.nameNode? = other.bind Node.nameNode?) (scope : Scope) (name : String)
    (session : Option Session) : scope.keyOf name raw session = scope.keyOf name other session := by
  cases scope with
  | global => rfl
  | inModule owner => rfl
  | inNamespace space =>
    unfold keyOf
    dsimp only
    rw [same]

/-- Statements with the same name node and the same shapes. -/
structure StandsFor (raw other : Option Node) : Prop where
  name : raw.bind Node.nameNode? = other.bind Node.nameNode?
  shapes : shapesOf raw = shapesOf other

theorem StandsFor.symm {raw other : Option Node} (same : StandsFor raw other) :
    StandsFor other raw := ⟨same.name.symm, same.shapes.symm⟩

theorem standsFor_declaration (node : Node) :
    StandsFor (some node) (some node.declaration) :=
  ⟨node.nameNode?_declaration.symm, (shapesOf_declaration node).symm⟩

namespace Catalog

/-- Once a declaration was accepted, a statement that stands for the same declaration comes under
the same key, as long as its name, its scope and the session that is asked are the same, and it
adds nothing. -/
theorem addsNothing_of_standsFor (session : Option Session) (store : Store)
    (past between : List Step) {first again : Declaring} {accepted : Accepted}
    (same : StandsFor first.raw again.raw)
    (told : Moment.accepted? ⟨(State.fresh session store).run past, first.step⟩ = some accepted) :
    let before := (State.fresh session store).run past
    let later := (before.after first.step).run between
    again.naming later = { first.naming before with raw := again.raw } →
    (again.naming later).key = .ok accepted.key ∧
      again.AddsNothing later accepted.key accepted.item := by
  intro before later alike
  obtain ⟨naming, shapes, read⟩ := shapes_of_accepted told
  have key : (again.naming later).key = .ok accepted.key := by
    have first_key := (Moment.joins_of_accepted told).1
    rw [naming, Naming.key, Naming.result] at first_key
    rw [alike, Naming.key, Naming.result, Scope.keyOf_congr same.symm.name]
    exact first_key
  refine ⟨key, ?_⟩
  exact (declared_again session store past between told read (same.shapes ▸ read) key).2.2.2
    fun shape member => member

/-- Every node leads through wrappers to a node that holds nothing, its declaration, and stands for
it: shapes, name node and keys are the same. So of a statement and its declaration the one that is
asked for later, under the same name, in the same scope and with the same session, comes under the
key of the other and adds nothing. -/
theorem wrappers_transparent (node : Node) :
    (∃ between, node.declaration.ancestors = between ++ node.ancestors ∧
      (∀ above ∈ between, above.kind ∈ Vocabulary.wrappers) ∧
      (node.declaration :: between).getLast? = some node) ∧
    (node.declaration.kind ∉ Vocabulary.wrappers ∨
      node.declaration.child? "declaration" = none ∧
        ∀ child ∈ node.declaration.namedChildren, child.kind = "comment") ∧
    node.declaration.declaration = node.declaration ∧
    shapesOf (some node.declaration) = shapesOf (some node) ∧
    node.declaration.nameNode? = node.nameNode? ∧
    (∀ (scope : Scope) (name : String) (session : Option Session),
      scope.keyOf name (some node.declaration) session = scope.keyOf name (some node) session) ∧
    ∀ (session : Option Session) (store : Store) (past between : List Step)
      (first again : Declaring) (accepted : Accepted),
      (first.raw = some node ∧ again.raw = some node.declaration ∨
        first.raw = some node.declaration ∧ again.raw = some node) →
      let before := (State.fresh session store).run past
      Moment.accepted? ⟨before, first.step⟩ = some accepted →
      let later := (before.after first.step).run between
      again.naming later = { first.naming before with raw := again.raw } →
      (again.naming later).key = .ok accepted.key ∧
        again.AddsNothing later accepted.key accepted.item := by
  refine ⟨node.declaration_below, ?_, node.declaration_idem, shapesOf_declaration node,
    node.nameNode?_declaration, ?_, ?_⟩
  · rw [← Node.held?_eq_none_iff]
    exact node.held?_declaration
  · exact Scope.keyOf_congr node.nameNode?_declaration
  · intro session store past between first again accepted raws before told later alike
    have same : StandsFor first.raw again.raw := by
      rcases raws with ⟨raw, raw_again⟩ | ⟨raw, raw_again⟩
      · rw [raw, raw_again]
        exact standsFor_declaration node
      · rw [raw, raw_again]
        exact (standsFor_declaration node).symm
    exact addsNothing_of_standsFor session store past between same told alike

/-- `namespace N{export declare function f():any;}`. -/
def wrapping : Tree where
  file := 0
  source := "namespace N\x7bexport declare function f():any;\x7d".toUTF8.toList
  rows := #[
    ⟨"program", none, none, true, some ⟨0, 45⟩⟩,
    ⟨"internal_module", some 0, none, true, some ⟨0, 45⟩⟩,
    ⟨"identifier", some 1, some "name", true, some ⟨10, 11⟩⟩,
    ⟨"statement_block", some 1, some "body", true, some ⟨11, 45⟩⟩,
    ⟨"export_statement", some 3, none, true, some ⟨12, 44⟩⟩,
    ⟨"ambient_declaration", some 4, some "declaration", true, some ⟨19, 44⟩⟩,
    ⟨"function_signature", some 5, none, true, some ⟨27, 44⟩⟩,
    ⟨"identifier", some 6, some "name", true, some ⟨36, 37⟩⟩,
    ⟨"formal_parameters", some 6, some "parameters", true, some ⟨37, 39⟩⟩,
    ⟨"type_annotation", some 6, some "return_type", true, some ⟨39, 43⟩⟩]

/-- The function is met in its two wrappers first, and then by itself. -/
theorem wrappers_transparent_twice :
    let statement : Node := ⟨wrapping, 4, by decide⟩
    let function : Node := ⟨wrapping, 6, by decide⟩
    let session := Session.lexical 0
    let first : Declaring := ⟨none, some statement, "f", some 0⟩
    let again : Declaring := ⟨none, some function, "f", some 0⟩
    let before := (State.fresh session ∅).run [.make (.ofNamespace "N") rfl]
    let later := (before.after first.step).run []
    statement.declaration = function ∧
    ∃ accepted, Moment.accepted? ⟨before, first.step⟩ = some accepted ∧
      accepted.key = "N.f" ∧ (again.naming later).key = .ok "N.f" ∧
      again.AddsNothing later "N.f" accepted.item := by
  intro statement function session first again before later
  have inner : statement.declaration = function := by decide +kernel
  have key : (Moment.accepted? ⟨before, first.step⟩).map Accepted.key = some "N.f" := by
    decide +kernel
  obtain ⟨accepted, told, named⟩ := Option.map_eq_some_iff.mp key
  obtain ⟨_, _, _, _, _, _, runs⟩ := wrappers_transparent statement
  have alike : again.naming later = { first.naming before with raw := again.raw } :=
    naming_after before first again
  have raws : first.raw = some statement ∧ again.raw = some statement.declaration :=
    ⟨rfl, by rw [inner]⟩
  obtain ⟨key_again, adds_nothing⟩ :=
    runs session ∅ _ [] first again accepted (.inl raws) told alike
  rw [named] at key_again adds_nothing
  exact ⟨inner, accepted, told, named, key_again, adds_nothing⟩

end Catalog

end DeclMerge
