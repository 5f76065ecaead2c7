import DeclMerge.Proofs.Catalog.Again
import DeclMerge.Proofs.Text.Squeezed

/-!
# Aliases of literals

The blanks in a string literal belong to what it stands for, but a signature does not tell them
from those around it. So two aliases of literals contribute one shape if the literals differ in
their runs of blanks alone, and the item of their key carries one shape less than there are types;
in all other cases it carries both (`literals_kept_iff`).
-/
namespace DeclMerge

/-- The statement defines an alias of a string literal, with these type parameters. -/
structure Node.AliasesLiteral (node : Node) (types content : String) : Prop where
  kind : node.declaration.kind = "type_alias_declaration"
  types : textOf (node.declaration.child? "type_parameters") = .ok types
  value : textOf (node.declaration.child? "value") = .ok (Text.literal content)

instance (node : Node) (types content : String) : Decidable (node.AliasesLiteral types content) :=
  decidable_of_iff (node.declaration.kind = "type_alias_declaration" ∧
      textOf (node.declaration.child? "type_parameters") = .ok types ∧
      textOf (node.declaration.child? "value") = .ok (Text.literal content))
    ⟨fun ⟨kind, types, value⟩ => ⟨kind, types, value⟩, fun h => ⟨h.kind, h.types, h.value⟩⟩

/-- The shape of an alias of a literal. -/
def Shape.ofLiteral (types content : String) : Shape where
  kind := "type_alias"
  signature := Text.normalize (types ++ " = " ++ Text.literal content)

theorem Node.AliasesLiteral.shapesOf_eq {node : Node} {types content : String}
    (aliases : node.AliasesLiteral types content) :
    shapesOf (some node) = .ok [.ofLiteral types content] := by
  have object : "type_alias_declaration" ∉ Vocabulary.objects := by decide
  have body : "type_alias_declaration" ∉ Vocabulary.bodies := by decide
  have function : "type_alias_declaration" ∉ Vocabulary.functions := by decide
  have read : node.declaration.aliasShape = .ok (.ofLiteral types content) := by
    rw [aliasShape, aliases.types, aliases.value]
    rfl
  rw [shapesOf, bareShapes, aliases.kind, if_neg object, if_neg body, if_neg function, if_pos rfl,
    read]
  rfl

theorem Shape.ofLiteral_eq_iff (types content other : String) :
    Shape.ofLiteral types content = Shape.ofLiteral types other ↔
      Text.squeeze content.toList = Text.squeeze other.toList := by
  rw [← Text.normalize_literal_iff types content other]
  simp [Shape.ofLiteral]

namespace Catalog

/-- Two aliases of literals with the same type parameters contribute the same shape exactly if the
contents differ in nothing but their runs of blanks; different contents without blanks never do. Once
one of them was accepted, the other is merged into its item, which carries the shapes of both: two
shapes if they differ, and one, with nothing added, if they are the same. -/
theorem literals_kept_iff {node twin : Node} {types content other : String}
    (aliases : node.AliasesLiteral types content) (aliases' : twin.AliasesLiteral types other) :
    ∃ shape shape', shapesOf (some node) = .ok [shape] ∧ shapesOf (some twin) = .ok [shape'] ∧
      (shape = shape' ↔ Text.squeeze content.toList = Text.squeeze other.toList) ∧
      ((∀ c ∈ content.toList ++ other.toList, Text.isBlank c = false) → content ≠ other →
        shape ≠ shape') ∧
      ∀ (session : Option Session) (store : Store) (past between : List Step)
        (first again : Declaring) (accepted : Accepted),
        first.raw = some node → again.raw = some twin →
        Moment.accepted? ⟨(State.fresh session store).run past, first.step⟩ = some accepted →
        let later := (((State.fresh session store).run past).after first.step).run between
        (again.naming later).key = .ok accepted.key →
        let final := later.after again.step
        (again.outcome later).result = .ok accepted.item ∧
        shape ∈ final.store.shapes accepted.item ∧ shape' ∈ final.store.shapes accepted.item ∧
        (∀ carried, carried ∈ final.store.shapes accepted.item ↔
          carried ∈ later.store.shapes accepted.item ∨ carried = shape') ∧
        (shape = shape' → again.AddsNothing later accepted.key accepted.item) := by
  have same_iff := Shape.ofLiteral_eq_iff types content other
  refine ⟨_, _, aliases.shapesOf_eq, aliases'.shapesOf_eq, same_iff, ?_, ?_⟩
  · intro solid apart
    rw [ne_eq, same_iff, Text.squeeze_of_solid fun c member => solid c (List.mem_append_left _ member),
      Text.squeeze_of_solid fun c member => solid c (List.mem_append_right _ member),
      String.toList_inj]
    exact apart
  · intro session store past between first again accepted raw raw_again told later named final
    have read : shapesOf first.raw = _ := raw ▸ aliases.shapesOf_eq
    have read_again : shapesOf again.raw = _ := raw_again ▸ aliases'.shapesOf_eq
    obtain ⟨answered, _, carries, adds_nothing⟩ :=
      declared_again session store past between told read read_again named
    have carried (shape : Shape) : shape ∈ final.store.shapes accepted.item ↔
        shape ∈ later.store.shapes accepted.item ∨ shape = .ofLiteral types other := by
      have grown := shapes_declared_again session store past between told read read_again named
      simp only [final, later, grown, mem_addNovel, List.mem_singleton]
    refine ⟨answered, ?_, ?_, carried, fun same => adds_nothing ?_⟩
    · exact (carried _).mpr (.inl (carries.2 _ List.mem_cons_self))
    · exact (carried _).mpr (.inr rfl)
    · rw [same]
      exact fun shape member => member

/-- `type T = "a b";`. -/
def narrowLiteral : Tree where
  file := 0
  source := "type T = \"a b\";".toUTF8.toList
  rows := #[
    ⟨"program", none, none, true, some ⟨0, 15⟩⟩,
    ⟨"type_alias_declaration", some 0, none, true, some ⟨0, 15⟩⟩,
    ⟨"type_identifier", some 1, some "name", true, some ⟨5, 6⟩⟩,
    ⟨"literal_type", some 1, some "value", true, some ⟨9, 14⟩⟩]

/-- The same with one more blank in the literal, `type T = "a  b";`. -/
def wideLiteral : Tree where
  file := 1
  source := "type T = \"a  b\";".toUTF8.toList
  rows := #[
    ⟨"program", none, none, true, some ⟨0, 16⟩⟩,
    ⟨"type_alias_declaration", some 0, none, true, some ⟨0, 16⟩⟩,
    ⟨"type_identifier", some 1, some "name", true, some ⟨5, 6⟩⟩,
    ⟨"literal_type", some 1, some "value", true, some ⟨9, 15⟩⟩]

/-- Two types, of which one shape is kept. -/
theorem literals_kept_iff_blanks :
    let first : Declaring := ⟨none, some ⟨narrowLiteral, 1, by decide⟩, "T", none⟩
    let again : Declaring := ⟨none, some ⟨wideLiteral, 1, by decide⟩, "T", none⟩
    let before := (State.fresh none ∅).run []
    let later := (before.after first.step).run []
    Node.AliasesLiteral ⟨narrowLiteral, 1, by decide⟩ "" "a b" ∧
    Node.AliasesLiteral ⟨wideLiteral, 1, by decide⟩ "" "a  b" ∧ "a b" ≠ "a  b" ∧
    (∃ accepted, Moment.accepted? ⟨before, first.step⟩ = some accepted ∧ accepted.item = 0 ∧
      again.AddsNothing later accepted.key accepted.item) ∧
    (later.after again.step).store.shapes 0 = [⟨"type_alias", none, "= \"a b\""⟩] := by
  intro first again before later
  have narrow : Node.AliasesLiteral ⟨narrowLiteral, 1, by decide⟩ "" "a b" := by decide +kernel
  have wide : Node.AliasesLiteral ⟨wideLiteral, 1, by decide⟩ "" "a  b" := by decide +kernel
  have told : (Moment.accepted? ⟨before, first.step⟩).map (fun accepted =>
      (accepted.key, accepted.item)) = some ("T", 0) := by decide +kernel
  obtain ⟨accepted, told, named⟩ := Option.map_eq_some_iff.mp told
  obtain ⟨key, item⟩ := Prod.mk.inj named
  obtain ⟨shape, shape', _, _, same_iff, _, runs⟩ := literals_kept_iff narrow wide
  have same : shape = shape' := same_iff.mpr (by decide)
  obtain ⟨_, _, _, _, adds_nothing⟩ :=
    runs none ∅ [] [] first again accepted rfl rfl told (by rw [key]; rfl)
  exact ⟨narrow, wide, by decide, ⟨accepted, told, item, adds_nothing same⟩, by decide +kernel⟩

end Catalog

end DeclMerge
