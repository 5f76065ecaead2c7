import DeclMerge.Key
import DeclMerge.Proofs.Syntax.Insertion
import DeclMerge.Proofs.Text.Chain
import DeclMerge.Symbol.Lexical

/-!
# Which names make up a path

The path to a symbol that is read off the source is decided by the names above the declaration and
by the text of the identifier (`Lexical.pathAt_eq_layout`). Whether the declaration is exported as
default plays no part in it: what the symbol is called then gives way to the identifier, and so no
key ever carries the default marker. From this follows what a node above the declaration can
change: nothing if it does not name a namespace, and the beginning of the path if it stands above
all others (`Lexical.path_decided_by_names`).
-/
namespace DeclMerge

/-- Either all answers are there, or there is a first fault, which is then the fault of all. -/
theorem mapM_id_cases {ε α : Type} (answers : List (Except ε α)) :
    (∃ values : List α, answers = values.map .ok ∧ answers.mapM id = .ok values) ∨
    ∃ (values : List α) (fault : ε) (rest : List (Except ε α)),
      answers = values.map .ok ++ .error fault :: rest ∧ answers.mapM id = .error fault := by
  induction answers with
  | nil => exact .inl ⟨[], rfl, rfl⟩
  | cons first rest ih =>
    rw [List.mapM_cons]
    cases first with
    | error fault => exact .inr ⟨[], fault, rest, rfl, rfl⟩
    | ok value =>
      rcases ih with ⟨values, all, answer⟩ | ⟨values, fault, others, begins, answer⟩
      · left
        refine ⟨value :: values, by rw [all, List.map_cons], ?_⟩
        rw [answer]
        rfl
      · right
        refine ⟨value :: values, fault, others, by rw [begins, List.map_cons, List.cons_append], ?_⟩
        rw [answer]
        rfl

namespace Node

/-- The name that a node adds to the paths below. None unless it is a namespace or a module with a
name node. -/
def spaceName? (node : Node) : Option (Except Utf8.Fault String) :=
  if node.kind ∈ Vocabulary.namespaces then (node.child? "name").map text else none

theorem spaceName?_eq_none_iff (node : Node) :
    node.spaceName? = none ↔ node.kind ∉ Vocabulary.namespaces ∨ node.child? "name" = none := by
  unfold spaceName?
  split <;> simp_all

/-- The names of the namespaces and modules above, the nearest first. -/
def namesAbove (declaration : Node) : List (Except Utf8.Fault String) :=
  declaration.ancestors.filterMap spaceName?

theorem enclosingNames_eq (declaration : Node) :
    declaration.enclosingNames = (declaration.namesAbove.mapM id).map List.reverse := by
  have names : declaration.namesAbove = declaration.enclosingNameNodes.map text := by
    rw [namesAbove, enclosingNameNodes, List.filterMap_filter, List.map_filterMap]
    refine List.filterMap_congr fun node _ => ?_
    unfold spaceName?
    split <;> simp_all
  rw [names, List.mapM_map, enclosingNames]
  rfl

/-- The names above an identifier and its declaration, the outermost first, and its own text. -/
structure Enclosed (identifier declaration : Node) (chain : List String) (own : String) : Prop where
  parent : identifier.parent? = some declaration
  above : declaration.namesAbove = chain.reverse.map .ok
  text : identifier.text = .ok own

/-- Whatever names a declaration hangs under it. -/
theorem parent?_of_nameNode? {node name : Node} (h : node.nameNode? = some name) :
    ∃ declaration, name.parent? = some declaration := by
  have child {above : Node} (role : above.child? "name" = some name) :
      ∃ declaration, name.parent? = some declaration :=
    ⟨above, (above.mem_children_iff name).mp (mem_children_of_child? role)⟩
  unfold nameNode? at h
  dsimp only at h
  split at h
  · obtain ⟨declarator, _, role⟩ := Option.bind_eq_some_iff.mp h
    exact child role
  · exact child h

end Node

namespace Lexical

/-- The path to the symbol at an identifier, without the default marker. -/
def pathAt (identifier : Node) : Except Utf8.Fault String := do
  path (← symbolAt identifier) (some identifier) false

/-- The path that these names, the nearest first, and the text of an identifier make up. -/
def layout (above : List (Except Utf8.Fault String)) (own : Except Utf8.Fault String) :
    Except Utf8.Fault String := do
  let names ← above.mapM id
  let last ← own
  return Vocabulary.pathSeparator.intercalate (names.reverse ++ [last])

theorem pathAt_eq_layout {identifier declaration : Node}
    (parent : identifier.parent? = some declaration) :
    pathAt identifier = layout declaration.namesAbove identifier.text := by
  unfold pathAt symbolAt layout
  rw [parent]
  dsimp only
  rw [Node.enclosingNames_eq]
  cases declaration.namesAbove.mapM id with
  | error fault => rfl
  | ok names =>
    -- The text of the identifier is read for the symbol, or else for the last part of the path.
    cases own : identifier.text <;> cases declaration.exportedAsDefault <;>
      simp [path, leaf, own, Except.map, bind, Except.bind, pure, Except.pure]

theorem layout_cases (above : List (Except Utf8.Fault String)) (own : Except Utf8.Fault String) :
    (∃ (names : List String) (last : String), above = names.map .ok ∧ own = .ok last ∧
      layout above own = .ok (Vocabulary.pathSeparator.intercalate (names.reverse ++ [last]))) ∨
    ∃ (read : List String) (fault : Utf8.Fault) (rest : List (Except Utf8.Fault String)),
      above ++ [own] = read.map .ok ++ .error fault :: rest ∧
        layout above own = .error fault := by
  unfold layout
  rcases mapM_id_cases above with ⟨names, all, answer⟩ | ⟨read, fault, rest, begins, answer⟩
  · rw [answer]
    cases own with
    | ok last => exact .inl ⟨names, last, all, rfl, rfl⟩
    | error fault => exact .inr ⟨names, fault, [], by rw [all], rfl⟩
  · rw [answer]
    refine .inr ⟨read, fault, rest ++ [own], ?_, rfl⟩
    rw [begins, List.append_assoc, List.cons_append]

/-- A name above all others is the beginning of the path. -/
theorem layout_append_ok (above : List (Except Utf8.Fault String)) (outermost : String)
    (own : Except Utf8.Fault String) :
    layout (above ++ [.ok outermost]) own =
      (layout above own).map (outermost ++ Vocabulary.pathSeparator ++ ·) := by
  unfold layout
  rw [List.mapM_append]
  cases above.mapM id with
  | error fault => rfl
  | ok names =>
    cases own with
    | error fault => rfl
    | ok last =>
      have whole : Vocabulary.pathSeparator.intercalate ((names ++ [outermost]).reverse ++ [last]) =
          outermost ++ Vocabulary.pathSeparator ++
            Vocabulary.pathSeparator.intercalate (names.reverse ++ [last]) := by
        rw [List.reverse_append, List.reverse_singleton, List.append_assoc, List.singleton_append]
        exact String.intercalate_cons_of_ne_nil (by simp)
      exact congrArg Except.ok whole

/-- A name that contains the separator counts as the two names that it separates. -/
theorem layout_split (below above : List (Except Utf8.Fault String)) (outer inner : String)
    (own : Except Utf8.Fault String) :
    layout (below ++ .ok (outer ++ Vocabulary.pathSeparator ++ inner) :: above) own =
      layout (below ++ .ok inner :: .ok outer :: above) own := by
  unfold layout
  rw [List.mapM_append, List.mapM_append]
  cases below.mapM id with
  | error fault => rfl
  | ok nearer =>
    simp only [List.mapM_cons]
    cases above.mapM id with
    | error fault => rfl
    | ok farther =>
      cases own with
      | error fault => rfl
      | ok last =>
        let name := outer ++ Vocabulary.pathSeparator ++ inner
        have whole : Vocabulary.pathSeparator.intercalate
              ((nearer ++ name :: farther).reverse ++ [last]) =
            Vocabulary.pathSeparator.intercalate
              ((nearer ++ inner :: outer :: farther).reverse ++ [last]) := by
          simp only [List.reverse_append, List.reverse_cons, List.append_assoc,
            List.singleton_append]
          exact Text.intercalate_split farther.reverse (nearer.reverse ++ [last]) outer inner
        exact congrArg Except.ok whole

/-- Of an identifier with these names above, the outermost first, and this text. -/
theorem pathAt_eq_ok {identifier declaration : Node} {chain : List String} {own : String}
    (enclosed : identifier.Enclosed declaration chain own) :
    pathAt identifier = .ok (Vocabulary.pathSeparator.intercalate (chain ++ [own])) := by
  have read : (chain.reverse.map .ok).mapM id =
      (.ok chain.reverse : Except Utf8.Fault (List String)) := by
    rw [List.mapM_map]
    exact (List.mapM_pure (f := id)).trans (congrArg Except.ok (List.map_id _))
  rw [pathAt_eq_layout enclosed.parent, enclosed.above, enclosed.text, layout, read]
  exact congrArg (fun names => Except.ok (Vocabulary.pathSeparator.intercalate (names ++ [own])))
    chain.reverse_reverse

/-- Of a name node the key in a namespace is the path. -/
theorem key_eq_pathAt {raw : Option Node} {identifier : Node}
    (named : raw.bind Node.nameNode? = some identifier) (number : Nat) (name space : String) :
    ((Scope.inNamespace space).keyOf name raw (some (.lexical number))).key =
      pathAt identifier := by
  obtain ⟨node, _, found⟩ := Option.bind_eq_some_iff.mp named
  obtain ⟨declaration, parent⟩ := Node.parent?_of_nameNode? found
  unfold Scope.keyOf
  rw [named]
  dsimp only
  unfold Session.keyAt pathAt
  simp only [Session.lexical, symbolAt, parent]
  cases declaration.enclosingNames with
  | error fault => rfl
  | ok names =>
    cases declaration.exportedAsDefault with
    | true => rfl
    | false => cases own : identifier.text <;> rfl

end Lexical

namespace Insertion

variable {tree other : Tree} (insertion : Insertion tree other)

/-- Nothing comes between an identifier and its declaration, and what is read is as before. -/
structure StandsAbove (identifier declaration : Node) : Prop where
  parent : (insertion.place identifier).parent? = some (insertion.place declaration)
  text : (insertion.place identifier).text = identifier.text
  names : ∀ node ∈ declaration.ancestors, (insertion.place node).spaceName? = node.spaceName?

variable {insertion} {identifier declaration : Node}

theorem StandsAbove.namesAbove_eq (stands : insertion.StandsAbove identifier declaration)
    (here : declaration.tree = tree)
    (silent : ∀ node ∈ (insertion.place declaration).ancestors, insertion.IsNew node →
      node.spaceName? = none) :
    (insertion.place declaration).namesAbove = declaration.namesAbove :=
  insertion.filterMap_eq (insertion.old_ancestors declaration here) stands.names silent

/-- One new namespace above all that was there before. -/
theorem StandsAbove.namesAbove_concat (stands : insertion.StandsAbove identifier declaration)
    (here : declaration.tree = tree) {below beyond : List Node} {space : Node}
    (split : (insertion.place declaration).ancestors = below ++ space :: beyond)
    (silent : ∀ node ∈ below ++ beyond, insertion.IsNew node → node.spaceName? = none)
    (new : ∀ node ∈ space :: beyond, insertion.IsNew node) {name : Except Utf8.Fault String}
    (named : space.spaceName? = some name) :
    (insertion.place declaration).namesAbove = declaration.namesAbove ++ [name] := by
  have olds := insertion.old_ancestors declaration here
  have none : (space :: beyond).filter (¬ insertion.IsNew ·) = [] := by
    rw [List.filter_eq_nil_iff]
    simpa using new
  rw [split, List.filter_append, none, List.append_nil] at olds
  have nearer : below.filterMap Node.spaceName? = declaration.namesAbove :=
    insertion.filterMap_eq olds stands.names fun node member =>
      silent node (List.mem_append_left _ member)
  have farther : beyond.filterMap Node.spaceName? = [] := by
    rw [List.filterMap_eq_nil_iff]
    exact fun node member =>
      silent node (List.mem_append_right _ member) (new node (List.mem_cons_of_mem _ member))
  rw [Node.namesAbove, split, List.filterMap_append, nearer, List.filterMap_cons_some named,
    farther]

end Insertion

/-- The names above a declaration and the text of the identifier decide the path, and with it the
key in a namespace: they are joined, or the first of them that is not text is the fault. So new
nodes above that name no namespace leave the path alone, a new namespace above all others begins
it, and a name with the separator counts as two namespaces. -/
theorem Lexical.path_decided_by_names {identifier declaration : Node}
    (parent : identifier.parent? = some declaration) :
    ((∃ (names : List String) (last : String),
        declaration.namesAbove = names.map .ok ∧ identifier.text = .ok last ∧
        pathAt identifier =
          .ok (Vocabulary.pathSeparator.intercalate (names.reverse ++ [last]))) ∨
      ∃ (read : List String) (fault : Utf8.Fault) (rest : List (Except Utf8.Fault String)),
        declaration.namesAbove ++ [identifier.text] = read.map .ok ++ .error fault :: rest ∧
        pathAt identifier = .error fault) ∧
    (∀ raw : Option Node, raw.bind Node.nameNode? = some identifier → ∀ number name space,
      ((Scope.inNamespace space).keyOf name raw (some (.lexical number))).key =
        pathAt identifier) ∧
    (∀ (other : Tree) (insertion : Insertion identifier.tree other),
      insertion.StandsAbove identifier declaration →
      ((∀ node ∈ (insertion.place declaration).ancestors, insertion.IsNew node →
          node.kind ∉ Vocabulary.namespaces ∨ node.child? "name" = none) →
        pathAt (insertion.place identifier) = pathAt identifier) ∧
      ∀ below space beyond, (insertion.place declaration).ancestors = below ++ space :: beyond →
        (∀ node ∈ below ++ beyond, insertion.IsNew node →
          node.kind ∉ Vocabulary.namespaces ∨ node.child? "name" = none) →
        (∀ node ∈ space :: beyond, insertion.IsNew node) →
        space.kind ∈ Vocabulary.namespaces → ∀ name ∈ space.child? "name", ∀ outermost,
        name.text = .ok outermost →
        pathAt (insertion.place identifier) =
          (pathAt identifier).map (outermost ++ Vocabulary.pathSeparator ++ ·)) ∧
    ∀ twin home : Node, twin.parent? = some home → twin.text = identifier.text →
      ∀ (below above : List (Except Utf8.Fault String)) (outer inner : String),
      declaration.namesAbove =
        below ++ .ok (outer ++ Vocabulary.pathSeparator ++ inner) :: above →
      home.namesAbove = below ++ .ok inner :: .ok outer :: above →
      pathAt twin = pathAt identifier := by
  have here : declaration.tree = identifier.tree :=
    ((identifier.parent?_eq_some_iff declaration).mp parent).1.symm
  rw [pathAt_eq_layout parent]
  refine ⟨layout_cases _ _, fun raw named number name space => ?_,
    fun other insertion stands => ⟨fun silent => ?_, ?_⟩, ?_⟩
  · rw [key_eq_pathAt named, pathAt_eq_layout parent]
  · simp only [← Node.spaceName?_eq_none_iff] at silent
    rw [pathAt_eq_layout stands.parent, stands.text, stands.namesAbove_eq here silent]
  · intro below space beyond split silent new kind name role outermost text
    simp only [← Node.spaceName?_eq_none_iff] at silent
    have named : space.spaceName? = some (.ok outermost) := by
      rw [Node.spaceName?, if_pos kind, Option.mem_def.mp role, Option.map_some, text]
    rw [pathAt_eq_layout stands.parent, stands.text,
      stands.namesAbove_concat here split silent new named, layout_append_ok]
  · intro twin home up text below above outer inner dotted nested
    rw [pathAt_eq_layout up, text, nested, dotted, layout_split]

/-- `namespace A{interface X{}}`. -/
def nested : Tree where
  file := 0
  source := "namespace A\x7binterface X\x7b\x7d\x7d".toUTF8.toList
  rows := #[
    ⟨"program", none, none, true, some ⟨0, 26⟩⟩,
    ⟨"internal_module", some 0, none, true, some ⟨0, 26⟩⟩,
    ⟨"identifier", some 1, some "name", true, some ⟨10, 11⟩⟩,
    ⟨"statement_block", some 1, some "body", true, some ⟨11, 26⟩⟩,
    ⟨"interface_declaration", some 3, none, true, some ⟨12, 25⟩⟩,
    ⟨"type_identifier", some 4, some "name", true, some ⟨22, 23⟩⟩,
    ⟨"interface_body", some 4, some "body", true, some ⟨23, 25⟩⟩]

/-- `namespace N{namespace A{export default interface X{}}}`, as a tree that was put together from
`nested` and what is new. -/
def wrapped : Tree where
  file := 1
  source := "namespace N\x7bnamespace A\x7bexport default interface X\x7b\x7d\x7d\x7d".toUTF8.toList
  rows := #[
    ⟨"internal_module", none, none, true, some ⟨0, 54⟩⟩,
    ⟨"identifier", some 0, some "name", true, some ⟨10, 11⟩⟩,
    ⟨"statement_block", some 0, some "body", true, some ⟨11, 54⟩⟩,
    ⟨"program", some 2, none, true, some ⟨12, 53⟩⟩,
    ⟨"internal_module", some 3, none, true, some ⟨12, 53⟩⟩,
    ⟨"identifier", some 4, some "name", true, some ⟨22, 23⟩⟩,
    ⟨"statement_block", some 4, some "body", true, some ⟨23, 53⟩⟩,
    ⟨"export_statement", some 6, none, true, some ⟨24, 52⟩⟩,
    ⟨"default", some 7, none, false, some ⟨31, 38⟩⟩,
    ⟨"interface_declaration", some 7, some "declaration", true, some ⟨39, 52⟩⟩,
    ⟨"type_identifier", some 9, some "name", true, some ⟨49, 50⟩⟩,
    ⟨"interface_body", some 9, some "body", true, some ⟨50, 52⟩⟩]

/-- Where the rows of `nested` stand in `wrapped`. -/
def wrappedIndex (index : Nat) : Nat := [3, 4, 5, 6, 9, 10, 11].getD index 0

def wrapping : Insertion nested wrapped where
  place node :=
    if inside : wrappedIndex node.index < wrapped.rows.size then
      ⟨wrapped, wrappedIndex node.index, inside⟩
    else node
  place_mem := by decide +kernel
  climbs := by decide +kernel

/-- `namespace N.A{interface X{}}`. -/
def dotted : Tree where
  file := 2
  source := "namespace N.A\x7binterface X\x7b\x7d\x7d".toUTF8.toList
  rows := #[
    ⟨"program", none, none, true, some ⟨0, 28⟩⟩,
    ⟨"internal_module", some 0, none, true, some ⟨0, 28⟩⟩,
    ⟨"nested_identifier", some 1, some "name", true, some ⟨10, 13⟩⟩,
    ⟨"statement_block", some 1, some "body", true, some ⟨13, 28⟩⟩,
    ⟨"interface_declaration", some 3, none, true, some ⟨14, 27⟩⟩,
    ⟨"type_identifier", some 4, some "name", true, some ⟨24, 25⟩⟩,
    ⟨"interface_body", some 4, some "body", true, some ⟨25, 27⟩⟩]

/-- With `N` around it and exported as default, `A.X` is `N.A.X`, just as in `N.A`. -/
theorem Lexical.path_decided_by_names_wrapped :
    let identifier : Node := ⟨nested, 5, by decide⟩
    let declaration : Node := ⟨nested, 4, by decide⟩
    let twin : Node := ⟨dotted, 5, by decide⟩
    identifier.parent? = some declaration ∧ wrapping.StandsAbove identifier declaration ∧
      (wrapping.place declaration).exportedAsDefault = true ∧
      pathAt identifier = .ok "A.X" ∧ pathAt (wrapping.place identifier) = .ok "N.A.X" ∧
      pathAt twin = .ok "N.A.X" := by
  intro identifier declaration twin
  have parent : identifier.parent? = some declaration := by decide +kernel
  have stands : wrapping.StandsAbove identifier declaration :=
    ⟨by decide +kernel, by decide +kernel, by decide +kernel⟩
  have path : pathAt identifier = .ok "A.X" := by decide +kernel
  obtain ⟨_, _, inserted, _⟩ := path_decided_by_names parent
  have around : pathAt (wrapping.place identifier) = .ok "N.A.X" := by
    -- The namespace `N` is the last node on the way up.
    have split : (wrapping.place declaration).ancestors =
        [⟨wrapped, 7, by decide⟩, ⟨wrapped, 6, by decide⟩, ⟨wrapped, 4, by decide⟩,
          ⟨wrapped, 3, by decide⟩, ⟨wrapped, 2, by decide⟩] ++ ⟨wrapped, 0, by decide⟩ :: [] := by
      decide +kernel
    rw [(inserted wrapped wrapping stands).2 _ _ _ split (by decide +kernel) (by decide +kernel)
      (by decide +kernel) ⟨wrapped, 1, by decide⟩ (by decide +kernel) "N" (by decide +kernel), path]
    decide +kernel
  refine ⟨parent, stands, by decide +kernel, path, around, ?_⟩
  have up : twin.parent? = some ⟨dotted, 4, by decide⟩ := by decide +kernel
  obtain ⟨_, _, _, same⟩ := path_decided_by_names up
  rw [← around]
  symm
  exact same (wrapping.place identifier) (wrapping.place declaration) stands.parent
    (by decide +kernel) [] [] "N" "A" (by decide +kernel) (by decide +kernel)

end DeclMerge
