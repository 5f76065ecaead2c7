import DeclMerge.Catalog
import DeclMerge.Program.Question
import DeclMerge.Proofs.Catalog.Effect
import DeclMerge.Proofs.Syntax.Legible

/-!
# Nothing fails over text

Where every text that is read is there, nothing that is asked of a tree can fail: neither a
question about a node, nor a key, be it without a session or from the one that reads symbols off
the source, nor a declaration or an overload that has a context. `answered_over_text` says so of
trees over text, with the texts of nodes and of entries without their bodies.
-/
namespace DeclMerge

/-- The node that a question is about. -/
def Question.raw? : Question → Option Node
  | .text raw | .declaration raw | .name raw | .shapes raw | .symbol raw | .path _ raw _ => raw

namespace Tree.Legible

variable {tree : Tree}

theorem enclosingNames (legible : tree.Legible) {declaration : Node}
    (here : declaration.tree = tree) : declaration.enclosingNames.isOk = true := by
  rw [Node.enclosingNames, isOk_map]
  refine isOk_mapM fun name member => legible.text name ?_
  obtain ⟨space, above, named⟩ := List.mem_filterMap.mp member
  rw [Node.tree_eq_of_child? named,
    Node.tree_eq_of_mem_ancestors (List.mem_filter.mp above).1, here]

theorem symbolAt (legible : tree.Legible) {identifier : Node} (here : identifier.tree = tree) :
    (Lexical.symbolAt identifier).isOk = true := by
  unfold Lexical.symbolAt
  split
  · rfl
  next declaration parent =>
    refine isOk_bind
      (legible.enclosingNames ((Node.tree_eq_of_parent? parent).trans here)) fun _ => ?_
    split
    · rfl
    · exact isOk_bind (legible.text identifier here) fun _ => rfl

theorem path (legible : tree.Legible) {identifier : Option Node}
    (here : ∀ node ∈ identifier, node.tree = tree) (symbol : Option Symbol) (withMarker : Bool) :
    (Lexical.path symbol identifier withMarker).isOk = true := by
  cases symbol with
  | none => exact legible.textOf here
  | some symbol =>
    rw [Lexical.path, isOk_map]
    unfold Lexical.leaf
    split
    · rfl
    next node =>
      split
      · exact legible.text node (here node rfl)
      · rfl

theorem answer (legible : tree.Legible) {question : Question}
    (here : ∀ node ∈ question.raw?, node.tree = tree) : question.answer.isOk = true := by
  cases question with
  | text raw =>
    rw [Question.answer, isOk_map]
    exact legible.textOf here
  | declaration raw => rfl
  | name raw => rfl
  | shapes raw =>
    rw [Question.answer, isOk_map]
    exact legible.shapesOf here
  | symbol raw =>
    cases raw with
    | none => rfl
    | some identifier =>
      rw [Question.answer, isOk_map]
      exact legible.symbolAt (here identifier rfl)
  | path symbol raw withMarker =>
    rw [Question.answer, isOk_map]
    exact legible.path here symbol withMarker

theorem keyAt (legible : tree.Legible) {identifier : Node} (here : identifier.tree = tree)
    (number : Nat) (name space : String) :
    ((Session.lexical number).keyAt identifier name space).key.isOk = true := by
  have found := legible.symbolAt here
  unfold Session.keyAt
  simp only [Session.lexical]
  split
  next fault unread =>
    rw [unread] at found
    cases found
  · rfl
  next symbol _ =>
    refine legible.path (fun node same => ?_) (some symbol) false
    rw [← Option.some.inj same, here]

theorem keyOf (legible : tree.Legible) {raw : Option Node} (here : ∀ node ∈ raw, node.tree = tree)
    {session : Option Session} (reads : ∀ asked ∈ session, ∃ number, asked = .lexical number)
    (scope : Scope) (name : String) : (scope.keyOf name raw session).key.isOk = true := by
  cases scope with
  | global => rfl
  | inModule owner => rfl
  | inNamespace space =>
    unfold Scope.keyOf
    dsimp only
    split
    · rfl
    · rfl
    next asked identifier named =>
      obtain ⟨number, rfl⟩ := reads asked rfl
      obtain ⟨node, rfl, found⟩ := Option.bind_eq_some_iff.mp named
      have inside := (Node.tree_eq_of_nameNode? found).trans (here node rfl)
      exact legible.keyAt inside number name space

theorem declare (legible : tree.Legible) {raw : Option Node}
    (here : ∀ node ∈ raw, node.tree = tree) {catalog : Catalog} {current : Option Session}
    (reads : ∀ asked ∈ catalog.effective current, ∃ number, asked = .lexical number)
    (store : Store) (name : Option String) (context : Option Id) :
    (catalog.declare store current raw name context).result.isOk = true := by
  have shapes := legible.shapesOf here
  have effect := catalog.declare_effect store current raw name context
  generalize catalog.declare store current raw name context = outcome at effect
  cases effect with
  | made plain => cases plain
  | unreadAnonymous unread | unread _ unread =>
    rw [unread] at shapes
    cases shapes
  | @unnamed _ name _ _ unnamed =>
    have key : (catalog.naming store current raw name context).key.isOk = true :=
      legible.keyOf here reads (store.scopeAt context) name
    rw [unnamed] at key
    cases key
  | _ => rfl

theorem overload (legible : tree.Legible) {raw : Option Node}
    (here : ∀ node ∈ raw, node.tree = tree) (catalog : Catalog) (store : Store) (name : String)
    (context : Id) : (catalog.overload store raw name (some context)).result.isOk = true := by
  have shapes := legible.shapesOf here
  unfold Catalog.overload
  dsimp only
  split
  next none => cases none
  next unread =>
    rw [unread] at shapes
    cases shapes
  · rfl

end Tree.Legible

/-- Over a text no request fails, and what is read of a node is what the text says where the
node stands. -/
theorem answered_over_text {tree : Tree} {text : List Char} (reads : tree.Reads text) :
    (∀ node ∈ tree.nodes, ∃ span ∈ node.row.span, ∃ part,
      Utf8.Slice text span.start span.stop part ∧ node.text = .ok (.ofList part)) ∧
    (∀ entry ∈ tree.nodes, ∀ body ∈ entry.child? "body", ∃ part,
      Utf8.Slice text entry.start body.start part ∧
      Utf8.decodeString entry.headBytes = .ok (.ofList part) ∧
      entry.entryShape.map Shape.signature = .ok (Text.normalize (.ofList part))) ∧
    (∀ question : Question, (∀ node ∈ question.raw?, node ∈ tree.nodes) →
      question.answer.isOk = true) ∧
    ∀ raw : Option Node, (∀ node ∈ raw, node ∈ tree.nodes) → ∀ session : Option Session,
      (∀ asked ∈ session, ∃ number, asked = .lexical number) →
      (∀ scope name, (Scope.keyOf scope name raw session).key.isOk = true) ∧
      ∀ (catalog : Catalog) (store : Store) (current : Option Session),
        catalog.effective current = session →
        (∀ name context,
          (catalog.perform store current (.declare raw name context)).result.isOk = true) ∧
        ∀ name context,
          (catalog.perform store current (.overload raw name (some context))).result.isOk =
            true := by
  have inside (node : Node) : node ∈ tree.nodes ↔ node.tree = tree := tree.mem_nodes_iff node
  simp only [inside]
  refine ⟨fun node here => reads.text_eq here, ?_, fun question here => reads.legible.answer here,
    fun raw here session lexical => ⟨reads.legible.keyOf here lexical, ?_⟩⟩
  · intro entry here body has
    obtain ⟨part, slice, head⟩ := reads.head_eq here has
    exact ⟨part, slice, head, Node.signature_of_head (reads.legible.entryShape here) head⟩
  · rintro catalog store current rfl
    exact ⟨reads.legible.declare here lexical store, reads.legible.overload here catalog store⟩

/-- `namespace Ä{class É{ñ(){}}}`: the two bytes of each accented letter stand at the edge of a
node. -/
def accented : Tree where
  file := 0
  source := "namespace Ä\x7bclass É\x7bñ()\x7b\x7d\x7d\x7d".toUTF8.toList
  rows := #[
    ⟨"program", none, none, true, some ⟨0, 30⟩⟩,
    ⟨"internal_module", some 0, none, true, some ⟨0, 30⟩⟩,
    ⟨"identifier", some 1, some "name", true, some ⟨10, 12⟩⟩,
    ⟨"statement_block", some 1, some "body", true, some ⟨12, 30⟩⟩,
    ⟨"class_declaration", some 3, none, true, some ⟨13, 29⟩⟩,
    ⟨"type_identifier", some 4, some "name", true, some ⟨19, 21⟩⟩,
    ⟨"class_body", some 4, some "body", true, some ⟨21, 29⟩⟩,
    ⟨"method_definition", some 6, none, true, some ⟨22, 28⟩⟩,
    ⟨"property_identifier", some 7, some "name", true, some ⟨22, 24⟩⟩,
    ⟨"formal_parameters", some 7, some "parameters", true, some ⟨24, 26⟩⟩,
    ⟨"statement_block", some 7, some "body", true, some ⟨26, 28⟩⟩]

def accentedClass : Node := ⟨accented, 4, by decide⟩

theorem answered_over_text_accented :
    let text := "namespace Ä\x7bclass É\x7bñ()\x7b\x7d\x7d\x7d".toList
    let session : Option Session := some (.lexical 0)
    let outcome :=
      Catalog.perform { session } ∅ none (.declare (some accentedClass) (some "É") none)
    accented.Reads text ∧ outcome.result.isOk = true ∧
      ((Scope.inNamespace "Ä").keyOf "É" (some accentedClass) session).key.isOk = true := by
  intro text session outcome
  have reads : accented.Reads text := by decide +kernel
  obtain ⟨_, _, _, requests⟩ := answered_over_text reads
  have here : ∀ node ∈ some accentedClass, node ∈ accented.nodes := by
    intro node same
    rw [← Option.some.inj same, Tree.mem_nodes_iff]
    rfl
  have lexical : ∀ asked ∈ session, ∃ number, asked = .lexical number := by
    intro asked same
    exact ⟨0, (Option.some.inj same).symm⟩
  obtain ⟨keys, performed⟩ := requests (some accentedClass) here session lexical
  exact ⟨reads, (performed _ ∅ none rfl).1 (some "É") none, keys (.inNamespace "Ä") "É"⟩

end DeclMerge
