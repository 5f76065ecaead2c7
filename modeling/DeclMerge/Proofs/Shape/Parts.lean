import DeclMerge.Proofs.Syntax.Copy
import DeclMerge.Shape.Contribution
import Mathlib.Data.List.Forall2
import Mathlib.Tactic.SplitIfs

/-!
# The parts of a declaration

A declaration contributes one shape for each of its parts, and all parts of one declaration are
read in one way, which its kind decides (`bareShapes_eq`). So two declarations, one a copy of the
other, are compared part by part: if each part reads alike, they contribute alike
(`Copy.shapesOf_eq`, `Copy.forall₂_shapesOf`).
-/
namespace DeclMerge

namespace Node

def bodyEntries (body : Node) : List Node :=
  body.namedChildren.filter (·.kind ∈ Vocabulary.entries)

def enumEntries (body : Node) : List Node := body.namedChildren.filter (·.kind ≠ "comment")

def declarators (statement : Node) : List Node :=
  statement.namedChildren.filter (·.kind = "variable_declarator")

/-- The nodes off which the shapes of a declaration are read, one for each shape. -/
def parts (node : Node) : List Node :=
  if node.kind ∈ Vocabulary.objects then ((node.child? "body").map bodyEntries).getD []
  else if node.kind ∈ Vocabulary.bodies then node.bodyEntries
  else if node.kind ∈ Vocabulary.functions ∨ node.kind = "type_alias_declaration" then [node]
  else if node.kind = "enum_declaration" then ((node.child? "body").map enumEntries).getD []
  else if node.kind ∈ Vocabulary.variableStatements then node.declarators
  else []

/-- The node whose children the parts of a declaration are. A function or an alias is its own
part. -/
def holder? (node : Node) : Option Node :=
  if node.kind ∈ Vocabulary.objects then node.child? "body"
  else if node.kind ∈ Vocabulary.bodies then some node
  else if node.kind ∈ Vocabulary.functions ∨ node.kind = "type_alias_declaration" then none
  else if node.kind = "enum_declaration" then node.child? "body"
  else if node.kind ∈ Vocabulary.variableStatements then some node
  else none

/-- How a part is read, by the kind of the declaration. -/
def reader (kind : String) : Node → Except Utf8.Fault Shape :=
  if kind ∈ Vocabulary.objects ∨ kind ∈ Vocabulary.bodies then entryShape
  else if kind ∈ Vocabulary.functions then functionShape
  else if kind = "type_alias_declaration" then aliasShape
  else if kind = "enum_declaration" then enumShape
  else variableShape

/-- The roles of the children whose texts a part is read off. -/
def rolesRead (kind : String) : List String :=
  if kind ∈ Vocabulary.objects ∨ kind ∈ Vocabulary.bodies then ["name"]
  else if kind ∈ Vocabulary.functions then ["type_parameters", "parameters", "return_type"]
  else if kind = "type_alias_declaration" then ["type_parameters", "value"]
  else if kind = "enum_declaration" then ["name"]
  else ["name", "type"]

/-- The bytes of its own that a part is read off, besides its children: an entry of a body up to
its own body, and all of an entry of an enumeration. -/
def ownBytes (kind : String) (part : Node) : List UInt8 :=
  if kind ∈ Vocabulary.objects ∨ kind ∈ Vocabulary.bodies then part.headBytes
  else if kind = "enum_declaration" then part.bytes
  else []

theorem bareShapes_eq (node : Node) : node.bareShapes = node.parts.mapM (reader node.kind) := by
  have single (read : Node → Except Utf8.Fault Shape) :
      (read node).map ([·]) = [node].mapM read := by
    rw [List.mapM_cons, List.mapM_nil]
    cases read node <;> rfl
  have ofBody (inBody : Node → List Node) (read : Node → Except Utf8.Fault Shape) :
      ((node.child? "body").map fun body => (inBody body).mapM read).getD (.ok []) =
        (((node.child? "body").map inBody).getD []).mapM read := by
    cases node.child? "body" <;> rfl
  unfold bareShapes parts reader
  by_cases object : node.kind ∈ Vocabulary.objects
  · rw [if_pos object, if_pos object, if_pos (.inl object)]
    exact ofBody bodyEntries entryShape
  rw [if_neg object, if_neg object]
  by_cases body : node.kind ∈ Vocabulary.bodies
  · rw [if_pos body, if_pos body, if_pos (.inr body)]
    rfl
  rw [if_neg body, if_neg body, if_neg (not_or.mpr ⟨object, body⟩)]
  by_cases function : node.kind ∈ Vocabulary.functions
  · rw [if_pos function, if_pos function, if_pos (Or.inl function)]
    exact single functionShape
  rw [if_neg function, if_neg function]
  by_cases definition : node.kind = "type_alias_declaration"
  · rw [if_pos definition, if_pos definition, if_pos (Or.inr definition)]
    exact single aliasShape
  rw [if_neg definition, if_neg definition, if_neg (not_or.mpr ⟨function, definition⟩)]
  by_cases enumeration : node.kind = "enum_declaration"
  · rw [if_pos enumeration, if_pos enumeration, if_pos enumeration]
    exact ofBody enumEntries enumShape
  rw [if_neg enumeration, if_neg enumeration, if_neg enumeration]
  split <;> rfl

theorem mem_subtree_of_child? {root node below : Node} (inside : node ∈ root.subtree)
    {field : String} (has : node.child? field = some below) : below ∈ root.subtree :=
  mem_subtree_of_mem_children inside (mem_children_of_child? has)

/-- The parts are children of one node, or the declaration is its only part. -/
theorem holder_of_mem_parts {node part : Node} (member : part ∈ node.parts) :
    (∃ holder, node.holder? = some holder ∧ part ∈ holder.children) ∨
      node.holder? = none ∧ part = node := by
  have named {above : Node} {counts : Node → Bool}
      (here : part ∈ above.namedChildren.filter counts) : part ∈ above.children :=
    mem_children_of_namedChildren (List.mem_filter.mp here).1
  have ofBody {inBody : Node → List Node} (within : ∀ body, part ∈ inBody body →
        part ∈ body.children) (here : part ∈ ((node.child? "body").map inBody).getD []) :
      ∃ holder, node.child? "body" = some holder ∧ part ∈ holder.children := by
    cases has : node.child? "body" with
    | none =>
      rw [has] at here
      cases here
    | some body =>
      rw [has] at here
      exact ⟨body, rfl, within body here⟩
  -- Both go by the kind, in the same order.
  unfold parts at member
  unfold holder?
  split_ifs at member ⊢ with object body alone enumeration statement
  · exact .inl (ofBody (fun _ => named) member)
  · exact .inl ⟨node, rfl, named member⟩
  · exact .inr ⟨rfl, List.mem_singleton.mp member⟩
  · exact .inl (ofBody (fun _ => named) member)
  · exact .inl ⟨node, rfl, named member⟩
  · cases member

theorem mem_subtree_of_holder? {root node holder : Node} (inside : node ∈ root.subtree)
    (holds : node.holder? = some holder) : holder ∈ root.subtree := by
  unfold holder? at holds
  split_ifs at holds
  · exact mem_subtree_of_child? inside holds
  · cases holds
    exact inside
  · exact mem_subtree_of_child? inside holds
  · cases holds
    exact inside

theorem mem_subtree_of_mem_parts {root node part : Node} (inside : node ∈ root.subtree)
    (member : part ∈ node.parts) : part ∈ root.subtree := by
  rcases holder_of_mem_parts member with ⟨holder, holds, below⟩ | ⟨_, rfl⟩
  · exact mem_subtree_of_mem_children (mem_subtree_of_holder? inside holds) below
  · exact inside

end Node

theorem shapesOf_eq_mapM (node : Node) :
    shapesOf (some node) = node.declaration.parts.mapM (Node.reader node.declaration.kind) :=
  node.declaration.bareShapes_eq

theorem mapM_congr {ε α β : Type} {read read' : α → Except ε β} {list : List α}
    (alike : ∀ x ∈ list, read x = read' x) : list.mapM read = list.mapM read' := by
  induction list with
  | nil => rfl
  | cons x rest ih =>
    rw [List.mapM_cons, List.mapM_cons, alike x List.mem_cons_self,
      ih fun y member => alike y (List.mem_cons_of_mem x member)]

/-- Two readings that both succeed on every element, with related values, do so on the list. -/
theorem forall₂_mapM {ε α β γ : Type} {related : β → γ → Prop} {read : α → Except ε β}
    {read' : α → Except ε γ} {list : List α}
    (alike : ∀ x ∈ list, ∃ left right, read x = .ok left ∧ read' x = .ok right ∧
      related left right) :
    ∃ lefts rights, list.mapM read = .ok lefts ∧ list.mapM read' = .ok rights ∧
      List.Forall₂ related lefts rights := by
  induction list with
  | nil => exact ⟨[], [], rfl, rfl, .nil⟩
  | cons x rest ih =>
    obtain ⟨left, right, here, here', first⟩ := alike x List.mem_cons_self
    obtain ⟨lefts, rights, there, there', further⟩ :=
      ih fun y member => alike y (List.mem_cons_of_mem x member)
    refine ⟨left :: lefts, right :: rights, ?_, ?_, .cons first further⟩
    · rw [List.mapM_cons, here, there]
      rfl
    · rw [List.mapM_cons, here', there']
      rfl

namespace Node.Copy

variable {root twin : Node} (copy : root.Copy twin)

theorem parts {node : Node} (inside : node ∈ root.subtree) :
    (copy.place node).parts = node.parts.map copy.place := by
  have ofBody {inBody : Node → List Node}
      (within : ∀ body ∈ root.subtree, inBody (copy.place body) =
        (inBody body).map copy.place) :
      (((copy.place node).child? "body").map inBody).getD [] =
        (((node.child? "body").map inBody).getD []).map copy.place := by
    rw [copy.child? inside]
    cases has : node.child? "body" with
    | none => rfl
    | some body => exact within body (mem_subtree_of_child? inside has)
  unfold Node.parts
  rw [copy.kind node inside]
  split
  · exact ofBody fun _ within => copy.filter_namedChildren within (· ∈ Vocabulary.entries)
  split
  · exact copy.filter_namedChildren inside (· ∈ Vocabulary.entries)
  split
  · rfl
  split
  · exact ofBody fun _ within => copy.filter_namedChildren within (· ≠ "comment")
  split
  · exact copy.filter_namedChildren inside (· = "variable_declarator")
  · rfl

section Reading

variable {node : Node} (inside : node ∈ root.subtree)

include inside

/-- The text of a child may be missing, or the child may be. -/
theorem mapM_text_congr {role : String}
    (same : textOf ((copy.place node).child? role) = textOf (node.child? role)) :
    ((copy.place node).child? role).mapM text = (node.child? role).mapM text := by
  rw [copy.child? inside] at same ⊢
  cases has : node.child? role with
  | none => rfl
  | some below =>
    rw [has] at same
    have read : (copy.place below).text = below.text := same
    simp only [Option.map_some, Option.mapM_some, read]

theorem entryShape_congr (own : (copy.place node).headBytes = node.headBytes)
    (name : textOf ((copy.place node).child? "name") = textOf (node.child? "name")) :
    (copy.place node).entryShape = node.entryShape := by
  rw [entryShape, copy.mapM_text_congr inside name, own, copy.kind node inside, entryShape]

theorem enumShape_congr (own : (copy.place node).bytes = node.bytes)
    (name : textOf ((copy.place node).child? "name") = textOf (node.child? "name")) :
    (copy.place node).enumShape = node.enumShape := by
  have whole : (copy.place node).text = node.text := by rw [text, own, text]
  have named : (((copy.place node).child? "name").getD (copy.place node)).text =
      ((node.child? "name").getD node).text := by
    rw [copy.child? inside] at name ⊢
    cases has : node.child? "name" with
    | none => exact whole
    | some below =>
      rw [has] at name
      exact name
  rw [enumShape, named, whole, enumShape]

/-- Nothing else is read off a part than its own bytes and the texts of these children. -/
theorem reader_congr (kind : String) (own : ownBytes kind (copy.place node) = ownBytes kind node)
    (texts : ∀ role ∈ rolesRead kind,
      textOf ((copy.place node).child? role) = textOf (node.child? role)) :
    reader kind (copy.place node) = reader kind node := by
  by_cases entry : kind ∈ Vocabulary.objects ∨ kind ∈ Vocabulary.bodies
  · simp only [ownBytes, rolesRead, reader, if_pos entry] at own texts ⊢
    exact copy.entryShape_congr inside own (texts "name" (by simp))
  by_cases function : kind ∈ Vocabulary.functions
  · simp only [rolesRead, reader, if_neg entry, if_pos function] at texts ⊢
    rw [functionShape, texts "type_parameters" (by simp), texts "parameters" (by simp),
      texts "return_type" (by simp), functionShape]
  by_cases definition : kind = "type_alias_declaration"
  · simp only [rolesRead, reader, if_neg entry, if_neg function, if_pos definition] at texts ⊢
    rw [aliasShape, texts "type_parameters" (by simp), texts "value" (by simp), aliasShape]
  by_cases enumeration : kind = "enum_declaration"
  · simp only [ownBytes, rolesRead, reader, if_neg entry, if_neg function, if_neg definition,
      if_pos enumeration] at own texts ⊢
    exact copy.enumShape_congr inside own (texts "name" (by simp))
  · simp only [rolesRead, reader, if_neg entry, if_neg function, if_neg definition,
      if_neg enumeration] at texts ⊢
    rw [variableShape, texts "name" (by simp), texts "type" (by simp), variableShape]

end Reading

/-- What is read off the copy, part by part of the original. -/
theorem shapesOf_twin : shapesOf (some twin) =
    root.declaration.parts.mapM fun part => reader root.declaration.kind (copy.place part) := by
  obtain ⟨same, below⟩ := copy.declaration root.self_mem_subtree
  rw [copy.place_root] at same
  rw [shapesOf_eq_mapM, same, copy.kind _ below, copy.parts below, List.mapM_map]
  rfl

theorem shapesOf_eq (alike : ∀ part ∈ root.declaration.parts,
      reader root.declaration.kind (copy.place part) = reader root.declaration.kind part) :
    shapesOf (some twin) = shapesOf (some root) := by
  rw [copy.shapesOf_twin, shapesOf_eq_mapM]
  exact mapM_congr alike

theorem forall₂_shapesOf {related : Shape → Shape → Prop}
    (alike : ∀ part ∈ root.declaration.parts, ∃ left right,
      reader root.declaration.kind part = .ok left ∧
      reader root.declaration.kind (copy.place part) = .ok right ∧ related left right) :
    ∃ lefts rights, shapesOf (some root) = .ok lefts ∧ shapesOf (some twin) = .ok rights ∧
      List.Forall₂ related lefts rights := by
  rw [copy.shapesOf_twin, shapesOf_eq_mapM]
  exact forall₂_mapM alike

end Node.Copy

end DeclMerge
