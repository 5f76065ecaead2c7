import DeclMerge.Proofs.Catalog.Separation
import DeclMerge.Proofs.Symbol.Path

/-!
# Namespaces keep declarations apart

Where names are words or stand in quotes, a path tells the whole chain of names. So declarations
that are looked up by the path share an item exactly if all their names are the same, the ones
around them and their own; and what stands in a namespace never meets what is called by a bare
name. `namespaces_apart` says so of every run.
-/
namespace DeclMerge

theorem Vocabulary.pathSeparator_eq : pathSeparator = .singleton '.' := by decide

/-- The names above an identifier are words or stand in quotes, and it is a word itself. -/
structure Node.WellNamed (identifier declaration : Node) (chain : List String) (own : String) : Prop
    extends identifier.Enclosed declaration chain own where
  names : ∀ name ∈ chain, Text.IsName name
  plain : Text.Plain own

namespace Node.WellNamed

variable {left right home away : Node} {chain others : List String} {own rest : String}

theorem pathAt_eq_iff (named : left.WellNamed home chain own)
    (also : right.WellNamed away others rest) :
    Lexical.pathAt left = Lexical.pathAt right ↔ chain ++ [own] = others ++ [rest] := by
  have parts {chain : List String} {own : String} (names : ∀ name ∈ chain, Text.IsName name)
      (plain : Text.Plain own) : ∀ name ∈ chain ++ [own], Text.IsName name := by
    intro name member
    rcases List.mem_append.mp member with above | last
    · exact names name above
    · rw [List.mem_singleton.mp last]
      exact .inl plain
  rw [Lexical.pathAt_eq_ok named.toEnclosed, Lexical.pathAt_eq_ok also.toEnclosed,
    Except.ok.injEq, Vocabulary.pathSeparator_eq]
  refine ⟨Text.intercalate_inj Text.IsName.ne_joined (by simp) (by simp)
    (parts named.names named.plain) (parts also.names also.plain), fun same => ?_⟩
  rw [same]

end Node.WellNamed

/-- In a namespace with a name the path carries a separator, so it is no bare name. -/
theorem Node.Enclosed.pathAt_ne_plain {identifier declaration : Node} {chain : List String}
    {own bare : String} (enclosed : identifier.Enclosed declaration chain own) {space : Node}
    (above : space ∈ declaration.ancestors) (kind : space.kind ∈ Vocabulary.namespaces)
    (named : (space.child? "name").isSome = true) (plain : Text.Plain bare) :
    Lexical.pathAt identifier ≠ .ok bare := by
  have counts : chain ≠ [] := by
    rintro rfl
    have none := List.filterMap_eq_nil_iff.mp enclosed.above space above
    rw [Node.spaceName?, if_pos kind, Option.map_eq_none_iff] at none
    rw [none] at named
    cases named
  obtain ⟨outermost, inner, rfl⟩ := List.exists_cons_of_ne_nil counts
  rw [Lexical.pathAt_eq_ok enclosed, List.cons_append, Vocabulary.pathSeparator_eq,
    Text.intercalate_cons_eq_joined (by simp)]
  intro same
  exact plain.ne_joined _ _ (Except.ok.inj same).symm

/-- The key is asked at this identifier, of a session that reads symbols off the source. -/
structure Naming.AsksAt (naming : Naming) (identifier : Node) : Prop where
  scope : ∃ space, naming.scope = .inNamespace space
  session : ∃ number, naming.session = some (.lexical number)
  identifier : naming.raw.bind Node.nameNode? = some identifier

theorem Naming.AsksAt.key_eq {naming : Naming} {identifier : Node}
    (asks : naming.AsksAt identifier) : naming.key = Lexical.pathAt identifier := by
  obtain ⟨⟨space, scope⟩, ⟨number, session⟩, named⟩ := asks
  rw [Naming.key, Naming.result, scope, session, Lexical.key_eq_pathAt named]

namespace Catalog

/-- Accepted declarations share an item exactly if they share a key. -/
theorem accepted_item_eq_iff {session : Option Session} {store : Store} {steps : List Step}
    {left right : Accepted} (isLeft : left ∈ (State.fresh session store).accepted steps)
    (isRight : right ∈ (State.fresh session store).accepted steps) :
    left.item = right.item ↔ left.naming.key = right.naming.key := by
  have items : left.item = right.item ↔ left.key = right.key :=
    (declarations_hold session store steps).item_eq_iff (List.mem_map_of_mem isLeft)
      (List.mem_map_of_mem isRight)
  rw [items, State.named_of_accepted isLeft, State.named_of_accepted isRight, Except.ok.injEq]

theorem State.session_after (state : State) (step : Step) :
    (state.after step).catalog.session = state.catalog.session := by
  cases step with
  | request current request => exact (own_table state.catalog state.store current request).1
  | construct raw =>
    rw [after]
    split <;> rfl
  | make | attach | absorb => rfl

theorem State.session_run (state : State) (steps : List Step) :
    (state.run steps).catalog.session = state.catalog.session :=
  run_preserves (fun after => after.catalog.session = state.catalog.session)
    (fun before step same => (before.session_after step).trans same) state steps rfl

/-- A catalog with a session of its own asks no other. -/
theorem State.session_of_accepted {session : Session} {store : Store} {steps : List Step}
    {accepted : Accepted} (member : accepted ∈ (fresh (some session) store).accepted steps) :
    accepted.naming.session = some session := by
  obtain ⟨moment, here, told⟩ := List.mem_filterMap.mp member
  obtain ⟨past, future, _, reached⟩ := mem_moments here
  have kept : moment.before.catalog.session = some session := by
    rw [reached, session_run]
    rfl
  unfold Moment.accepted? at told
  split at told
  · dsimp only at told
    split at told
    · cases told
      simp only [naming, effective, kept, Option.some_or]
    · cases told
  · cases told

/-- Over a run, the path at an identifier tells apart what is declared: another identifier has
the same path and the same item exactly if all names are the same, and in a namespace with a name
neither the path nor the item is that of a bare name. -/
theorem namespaces_apart (session : Option Session) (store : Store) (steps : List Step)
    {left home : Node} {chain : List String} {own : String}
    (named : left.WellNamed home chain own) :
    let start := State.fresh session store
    let InNamespace := ∃ space ∈ home.ancestors, space.kind ∈ Vocabulary.namespaces ∧
      (space.child? "name").isSome = true
    (∃ path, Lexical.pathAt left = .ok path ∧
      (∀ right away others rest, right.WellNamed away others rest →
        (Lexical.pathAt right = .ok path ↔ chain ++ [own] = others ++ [rest])) ∧
      (InNamespace → ∀ bare, Text.Plain bare → path ≠ bare)) ∧
    ∀ accepted ∈ start.accepted steps, accepted.naming.AsksAt left →
      (∀ right away others rest, right.WellNamed away others rest →
        ∀ other ∈ start.accepted steps, other.naming.AsksAt right →
        (accepted.item = other.item ↔ chain ++ [own] = others ++ [rest])) ∧
      (InNamespace → ∀ outside ∈ start.accepted steps, outside.naming.scope = .global →
        Text.Plain outside.naming.name → accepted.item ≠ outside.item) := by
  intro start InNamespace
  have path := Lexical.pathAt_eq_ok named.toEnclosed
  refine ⟨⟨_, path, fun right away others rest also => ?_, ?_⟩,
    fun accepted member asks => ⟨?_, ?_⟩⟩
  · rw [← path, eq_comm, named.pathAt_eq_iff also]
  · rintro ⟨space, above, kind, has⟩ bare plain same
    rw [same] at path
    exact named.pathAt_ne_plain above kind has plain path
  · intro right away others rest also other isOther asksAlso
    rw [accepted_item_eq_iff member isOther, asks.key_eq, asksAlso.key_eq, named.pathAt_eq_iff also]
  · rintro ⟨space, above, kind, has⟩ outside isOutside global plain same
    rw [accepted_item_eq_iff member isOutside, asks.key_eq, Naming.key, Naming.result,
      global] at same
    exact named.pathAt_ne_plain above kind has plain same

/-- `module "A.X"{interface X{}}`. -/
def quoted : Tree where
  file := 1
  source := "module \"A.X\"\x7binterface X\x7b\x7d\x7d".toUTF8.toList
  rows := #[
    ⟨"program", none, none, true, some ⟨0, 27⟩⟩,
    ⟨"module", some 0, none, true, some ⟨0, 27⟩⟩,
    ⟨"string", some 1, some "name", true, some ⟨7, 12⟩⟩,
    ⟨"statement_block", some 1, some "body", true, some ⟨12, 27⟩⟩,
    ⟨"interface_declaration", some 3, none, true, some ⟨13, 26⟩⟩,
    ⟨"type_identifier", some 4, some "name", true, some ⟨23, 24⟩⟩,
    ⟨"interface_body", some 4, some "body", true, some ⟨24, 26⟩⟩]

/-- An `X` in the namespace `A`, one in the module `"A.X"`, and one outside. -/
def separating : List Step := [
  .request none (.openNamespace "A"),
  .request none (.declare (some ⟨nested, 4, by decide⟩) (some "X") (some 0)),
  .request none (.declare (some ⟨quoted, 4, by decide⟩) (some "X") (some 0)),
  .request none (.declare none (some "X") none)]

theorem namespaces_apart_quoted :
    let left : Node := ⟨nested, 5, by decide⟩
    let right : Node := ⟨quoted, 5, by decide⟩
    let start := State.fresh (some (.lexical 0)) ∅
    left.WellNamed ⟨nested, 4, by decide⟩ ["A"] "X" ∧
    right.WellNamed ⟨quoted, 4, by decide⟩ ["\"A.X\""] "X" ∧
    ∃ inside ∈ start.accepted separating, ∃ also ∈ start.accepted separating,
      ∃ outside ∈ start.accepted separating,
      inside.naming.AsksAt left ∧ also.naming.AsksAt right ∧
      outside.naming.scope = .global ∧ outside.naming.name = "X" ∧
      Lexical.pathAt left ≠ Lexical.pathAt right ∧ Lexical.pathAt left ≠ .ok "X" ∧
      inside.item ≠ also.item ∧ inside.item ≠ outside.item := by
  intro left right start
  have named : left.WellNamed ⟨nested, 4, by decide⟩ ["A"] "X" :=
    { parent := by decide +kernel, above := by decide +kernel, text := by decide +kernel
      names := by simpa using .inl (by decide), plain := by decide }
  have literal : Text.IsName "\"A.X\"" :=
    .inr ⟨'"', by decide, "A.X", by decide, by decide⟩
  have also_named : right.WellNamed ⟨quoted, 4, by decide⟩ ["\"A.X\""] "X" :=
    { parent := by decide +kernel, above := by decide +kernel, text := by decide +kernel
      names := by simpa using literal, plain := by decide }
  have all : (start.accepted separating).map
      (fun accepted => (accepted.naming.scope, accepted.naming.name, accepted.naming.raw)) =
      [(.inNamespace "A", "X", some ⟨nested, 4, by decide⟩),
        (.inNamespace "A", "X", some ⟨quoted, 4, by decide⟩), (.global, "X", none)] := by
    decide +kernel
  obtain ⟨inside, isInside, insideIs⟩ := List.mem_map.mp (all ▸ List.mem_cons_self)
  obtain ⟨also, isAlso, alsoIs⟩ :=
    List.mem_map.mp (all ▸ List.mem_cons_of_mem _ List.mem_cons_self)
  obtain ⟨outside, isOutside, outsideIs⟩ :=
    List.mem_map.mp (all ▸ List.mem_cons_of_mem _ (List.mem_cons_of_mem _ List.mem_cons_self))
  simp only [Prod.mk.injEq] at insideIs alsoIs outsideIs
  have asks : inside.naming.AsksAt left :=
    ⟨⟨"A", insideIs.1⟩, ⟨0, State.session_of_accepted isInside⟩, by
      rw [insideIs.2.2]
      decide +kernel⟩
  have also_asks : also.naming.AsksAt right :=
    ⟨⟨"A", alsoIs.1⟩, ⟨0, State.session_of_accepted isAlso⟩, by
      rw [alsoIs.2.2]
      decide +kernel⟩
  obtain ⟨⟨path, here, same_path, bare⟩, items⟩ :=
    namespaces_apart (some (.lexical 0)) ∅ separating named
  obtain ⟨same_item, apart⟩ := items inside isInside asks
  refine ⟨named, also_named, inside, isInside, also, isAlso, outside, isOutside, asks, also_asks,
    outsideIs.1, outsideIs.2.1, ?_, ?_, ?_, ?_⟩
  · rw [here, ne_comm, ne_eq, same_path right _ _ _ also_named]
    decide
  · rw [here, ne_eq, Except.ok.injEq]
    exact bare (by decide +kernel) "X" (by decide)
  · rw [ne_eq, same_item right _ _ _ also_named also isAlso also_asks]
    decide
  · exact apart (by decide +kernel) outside isOutside outsideIs.1 (by
      rw [outsideIs.2.1]
      decide)

end Catalog

end DeclMerge
