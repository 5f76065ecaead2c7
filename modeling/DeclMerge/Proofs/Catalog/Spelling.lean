import DeclMerge.Proofs.Catalog.Namespaces
import DeclMerge.Proofs.Catalog.Reordering
import DeclMerge.Text.Blank

/-!
# One chain of names, written in several ways

The same names can be written as nested namespaces or as dotted names, and the name of a module
may stand in quotes of either kind. A path keeps the names as they are written: nesting makes no
difference (`namespaces_merge`), but the kind of quote does, since a module name counts with its
quotes, and so does a blank around a dot (`spellings_apart`).
-/
namespace DeclMerge

/-- One name of a chain: a word, or the name of a module in quotes. -/
inductive Component where
  | word (name : String)
  | module (quote : Char) (content : String)
  deriving DecidableEq, Repr

namespace Component

def text : Component → String
  | .word name => name
  | .module quote content => .singleton quote ++ content ++ .singleton quote

/-- The component with the kind of quote forgotten. -/
def unquoted : Component → Component
  | .word name => .word name
  | .module _ content => .module '"' content

end Component

/-- Words with a joint between any two of them. -/
inductive Dotted (Joint : String → Prop) : String → List Component → Prop where
  | last (name : String) : Dotted Joint name [.word name]
  | more (name : String) {joint text : String} {words : List Component} (here : Joint joint)
      (further : Dotted Joint text words) :
      Dotted Joint (name ++ joint ++ text) (.word name :: words)

/-- What the name of a namespace or a module stands for. -/
inductive Spells (Joint : String → Prop) : String → List Component → Prop where
  | dotted {text : String} {words : List Component} (here : Dotted Joint text words) :
      Spells Joint text words
  | quoted {quote : Char} (mark : quote ∈ ['"', '\'']) (content : String) :
      Spells Joint (Component.module quote content).text [.module quote content]

/-- A dot with nothing around it. -/
def Tight (joint : String) : Prop := joint = Vocabulary.pathSeparator

/-- A dot with blanks around it, or with none. -/
def Loose (joint : String) : Prop :=
  ∃ before after : String, before.toList.all Text.isBlank = true ∧
    after.toList.all Text.isBlank = true ∧ joint = before ++ Vocabulary.pathSeparator ++ after

/-- The names above an identifier stand for this chain, the outermost first. -/
def Node.SpelledOut (Joint : String → Prop) (identifier declaration : Node)
    (chain : List Component) (own : String) : Prop :=
  ∃ names parts, identifier.Enclosed declaration names own ∧
    List.Forall₂ (Spells Joint) names parts ∧ parts.flatten = chain

theorem Dotted.text_eq {text : String} {words : List Component} (dotted : Dotted Tight text words) :
    words ≠ [] ∧ text = Vocabulary.pathSeparator.intercalate (words.map Component.text) := by
  induction dotted with
  | last name => exact ⟨by simp, String.intercalate_singleton.symm⟩
  | more name here further ih =>
    obtain ⟨filled, text⟩ := ih
    refine ⟨by simp, ?_⟩
    rw [List.map_cons, String.intercalate_cons_of_ne_nil (by simp [filled]), ← text, here]
    rfl

theorem Spells.text_eq {text : String} {part : List Component} (spells : Spells Tight text part) :
    part ≠ [] ∧ text = Vocabulary.pathSeparator.intercalate (part.map Component.text) := by
  cases spells with
  | dotted here => exact here.text_eq
  | quoted mark content => exact ⟨by simp, String.intercalate_singleton.symm⟩

theorem names_eq_of_spells {names : List String} {parts : List (List Component)}
    (spells : List.Forall₂ (Spells Tight) names parts) :
    (∀ part ∈ parts, part ≠ []) ∧ names = parts.map fun part =>
      Vocabulary.pathSeparator.intercalate (part.map Component.text) := by
  induction spells with
  | nil => exact ⟨by simp, rfl⟩
  | cons first _ ih =>
    obtain ⟨filled, text⟩ := first.text_eq
    exact ⟨by simpa using ⟨filled, ih.1⟩, by rw [List.map_cons, ← text, ← ih.2]⟩

/-- The path is made of the components, however they are distributed over the names. -/
theorem Node.SpelledOut.pathAt_eq {identifier declaration : Node} {chain : List Component}
    {own : String} (spelled : identifier.SpelledOut Tight declaration chain own) :
    Lexical.pathAt identifier =
      .ok (Vocabulary.pathSeparator.intercalate (chain.map Component.text ++ [own])) := by
  obtain ⟨names, parts, enclosed, spells, rfl⟩ := spelled
  obtain ⟨filled, names_eq⟩ := names_eq_of_spells spells
  -- The parts as they are written; the text of the identifier is the last of them.
  let written := parts.map (·.map Component.text) ++ [[own]]
  have nonempty : ∀ part ∈ written, part ≠ [] := by
    intro part member
    rcases List.mem_append.mp member with above | last
    · obtain ⟨words, here, rfl⟩ := List.mem_map.mp above
      simpa using filled words here
    · rw [List.mem_singleton.mp last]
      simp
  have joined : names ++ [own] = written.map Vocabulary.pathSeparator.intercalate := by
    rw [names_eq, List.map_append, List.map_map, List.map_singleton, String.intercalate_singleton]
    rfl
  have flat : written.flatten = parts.flatten.map Component.text ++ [own] := by
    rw [List.flatten_append, List.map_flatten, List.flatten_singleton]
  rw [Lexical.pathAt_eq_ok enclosed, joined, Text.intercalate_flatten nonempty, flat]

namespace Catalog

/-- What the catalog answers to the request. -/
def Declaring.answer (declaring : Declaring) (state : State) : Except Fault Id :=
  (state.ask declaring.current
    (.declare declaring.raw (some declaring.name) declaring.context)).result

/-- A declaration whose key and shapes can be read is accepted, with the item that is answered. -/
theorem accepted_of_naming {start : State} {steps : List Step} {moment : Moment}
    (member : moment ∈ start.moments steps) {declaring : Declaring}
    (step : moment.step = declaring.step) {key : String}
    (named : (declaring.naming moment.before).key = .ok key)
    (read : (shapesOf declaring.raw).isOk = true) :
    ∃ accepted ∈ start.accepted steps, accepted.naming = declaring.naming moment.before ∧
      declaring.answer moment.before = .ok accepted.item := by
  obtain ⟨before, step⟩ := moment
  subst step
  cases shapes : shapesOf declaring.raw with
  | error fault =>
    rw [shapes] at read
    cases read
  | ok contributed =>
    have reads : (declaring.naming before).accepted? = some key :=
      ((declaring.naming before).accepted?_eq_some_iff key).mpr ⟨named, contributed, shapes⟩
    rcases after_declaring before declaring with ⟨refused, _⟩ | ⟨accepted, is, _, told, _⟩
    · rw [refused] at reads
      cases reads
    · refine ⟨accepted, List.mem_filterMap.mpr ⟨_, member, told⟩, is, ?_⟩
      simp only [Moment.accepted?, Declaring.step] at told
      split at told
      next answered =>
        cases told
        exact answered
      · cases told

/-- Where names are written without blanks around their dots, one chain is one path: it does not
matter how the chain is distributed over dotted names and nested namespaces. So declarations with
that chain and one identifier have one item, in every run of a catalog. -/
theorem namespaces_merge {left right home away : Node} {chain : List Component} {own : String}
    (here : left.SpelledOut Tight home chain own) (there : right.SpelledOut Tight away chain own) :
    (∃ path, Lexical.pathAt left = .ok path ∧ Lexical.pathAt right = .ok path) ∧
    ∀ (session : Option Session) (store : Store) (steps : List Step),
      ∀ first ∈ (State.fresh session store).moments steps,
      ∀ second ∈ (State.fresh session store).moments steps,
      ∀ declaring again : Declaring, first.step = declaring.step → second.step = again.step →
      (declaring.naming first.before).AsksAt left → (again.naming second.before).AsksAt right →
      (shapesOf declaring.raw).isOk = true → (shapesOf again.raw).isOk = true →
      ∃ item, declaring.answer first.before = .ok item ∧ again.answer second.before = .ok item := by
  refine ⟨⟨_, here.pathAt_eq, there.pathAt_eq⟩, ?_⟩
  intro session store steps first isFirst second isSecond declaring again step step' asks asks'
    read read'
  obtain ⟨accepted, member, naming, answer⟩ :=
    accepted_of_naming isFirst step (asks.key_eq.trans here.pathAt_eq) read
  obtain ⟨other, member', naming', answer'⟩ :=
    accepted_of_naming isSecond step' (asks'.key_eq.trans there.pathAt_eq) read'
  have same : accepted.item = other.item := by
    rw [accepted_item_eq_iff member member', naming, naming', asks.key_eq, asks'.key_eq,
      here.pathAt_eq, there.pathAt_eq]
  exact ⟨accepted.item, answer, by rw [same, answer']⟩

/-- The `X` of `namespace N.A`. -/
def dottedX : Declaring := ⟨none, some ⟨dotted, 4, by decide⟩, "X", some 0⟩

/-- The `X` of `namespace A` in `namespace N`. -/
def nestedX : Declaring := ⟨none, some ⟨wrapped, 9, by decide⟩, "X", some 0⟩

def respelling : List Step := [.request none (.openNamespace "N"), dottedX.step, nestedX.step]

theorem namespaces_merge_respelling :
    let start := State.fresh (some (.lexical 0)) ∅
    let left : Node := ⟨dotted, 5, by decide⟩
    let right : Node := ⟨wrapped, 10, by decide⟩
    left.SpelledOut Tight ⟨dotted, 4, by decide⟩ [.word "N", .word "A"] "X" ∧
    right.SpelledOut Tight ⟨wrapped, 9, by decide⟩ [.word "N", .word "A"] "X" ∧
    ∃ item, dottedX.answer (start.run (respelling.take 1)) = .ok item ∧
      nestedX.answer (start.run (respelling.take 2)) = .ok item := by
  intro start left right
  have here : left.SpelledOut Tight ⟨dotted, 4, by decide⟩ [.word "N", .word "A"] "X" :=
    ⟨["N" ++ Vocabulary.pathSeparator ++ "A"], [[.word "N", .word "A"]],
      ⟨by decide +kernel, by decide +kernel, by decide +kernel⟩,
      .cons (.dotted (.more "N" rfl (.last "A"))) .nil, rfl⟩
  have there : right.SpelledOut Tight ⟨wrapped, 9, by decide⟩ [.word "N", .word "A"] "X" :=
    ⟨["N", "A"], [[.word "N"], [.word "A"]],
      ⟨by decide +kernel, by decide +kernel, by decide +kernel⟩,
      .cons (.dotted (.last "N")) (.cons (.dotted (.last "A")) .nil), rfl⟩
  have session (past : List Step) (declaring : Declaring) :
      (declaring.naming (start.run past)).session = some (.lexical 0) := by
    rw [Declaring.naming, naming, effective, State.session_run]
    rfl
  obtain ⟨_, merge⟩ := namespaces_merge here there
  refine ⟨here, there, merge (some (.lexical 0)) ∅ respelling
    ⟨start.run (respelling.take 1), dottedX.step⟩ (List.mem_cons_of_mem _ List.mem_cons_self)
    ⟨start.run (respelling.take 2), nestedX.step⟩
    (List.mem_cons_of_mem _ (List.mem_cons_of_mem _ List.mem_cons_self))
    dottedX nestedX rfl rfl ?_ ?_ (by decide +kernel) (by decide +kernel)⟩
  · exact ⟨⟨"N", by decide +kernel⟩, ⟨0, session _ dottedX⟩, by decide +kernel⟩
  · exact ⟨⟨"N", by decide +kernel⟩, ⟨0, session _ nestedX⟩, by decide +kernel⟩

/-- `module 'A.X'{interface X{}}`. -/
def singleQuoted : Tree :=
  { quoted with file := 3, source := "module 'A.X'\x7binterface X\x7b\x7d\x7d".toUTF8.toList }

/-- `namespace N . A{interface X{}}`. -/
def spaced : Tree where
  file := 4
  source := "namespace N . A\x7binterface X\x7b\x7d\x7d".toUTF8.toList
  rows := #[
    ⟨"program", none, none, true, some ⟨0, 30⟩⟩,
    ⟨"internal_module", some 0, none, true, some ⟨0, 30⟩⟩,
    ⟨"nested_identifier", some 1, some "name", true, some ⟨10, 15⟩⟩,
    ⟨"statement_block", some 1, some "body", true, some ⟨15, 30⟩⟩,
    ⟨"interface_declaration", some 3, none, true, some ⟨16, 29⟩⟩,
    ⟨"type_identifier", some 4, some "name", true, some ⟨26, 27⟩⟩,
    ⟨"interface_body", some 4, some "body", true, some ⟨27, 29⟩⟩]

theorem lt_size_quoted : 4 < quoted.rows.size := by decide

/-- The `X` of `module "A.X"`, of `module 'A.X'`, of `namespace N.A` and of `namespace N . A`. -/
def differing : List Step :=
  .request none (.openNamespace "N") ::
    [⟨quoted, 4, lt_size_quoted⟩, ⟨singleQuoted, 4, by decide⟩, ⟨dotted, 4, by decide⟩,
      ⟨spaced, 4, by decide⟩].map fun raw : Node =>
        .request none (.declare (some raw) (some "X") (some 0))

/-- Other quotes or blanks around a dot make another path of the same names, and so another
item. -/
theorem spellings_apart :
    let double : Node := ⟨quoted, 5, by decide⟩
    let single : Node := ⟨singleQuoted, 5, by decide⟩
    let tight : Node := ⟨dotted, 5, by decide⟩
    let loose : Node := ⟨spaced, 5, by decide⟩
    (double.SpelledOut Loose ⟨quoted, 4, by decide⟩ [.module '"' "A.X"] "X" ∧
      single.SpelledOut Loose ⟨singleQuoted, 4, by decide⟩ [.module '\'' "A.X"] "X" ∧
      (Component.module '"' "A.X").unquoted = (Component.module '\'' "A.X").unquoted ∧
      Lexical.pathAt double = .ok "\"A.X\".X" ∧ Lexical.pathAt single = .ok "'A.X'.X") ∧
    (tight.SpelledOut Loose ⟨dotted, 4, by decide⟩ [.word "N", .word "A"] "X" ∧
      loose.SpelledOut Loose ⟨spaced, 4, by decide⟩ [.word "N", .word "A"] "X" ∧
      Lexical.pathAt tight = .ok "N.A.X" ∧ Lexical.pathAt loose = .ok "N . A.X") ∧
    ((State.fresh (some (.lexical 0)) ∅).accepted differing).map Accepted.item = [1, 2, 3, 4] := by
  intro double single tight loose
  have close : Loose Vocabulary.pathSeparator := ⟨"", "", by decide, by decide, by decide⟩
  have wide : Loose (" " ++ Vocabulary.pathSeparator ++ " ") :=
    ⟨" ", " ", by decide, by decide, rfl⟩
  refine ⟨⟨?_, ?_, rfl, by decide +kernel, by decide +kernel⟩,
    ⟨?_, ?_, by decide +kernel, by decide +kernel⟩, by decide +kernel⟩
  · exact ⟨[(Component.module '"' "A.X").text], [[.module '"' "A.X"]],
      ⟨by decide +kernel, by decide +kernel, by decide +kernel⟩,
      .cons (.quoted List.mem_cons_self "A.X") .nil, rfl⟩
  · exact ⟨[(Component.module '\'' "A.X").text], [[.module '\'' "A.X"]],
      ⟨by decide +kernel, by decide +kernel, by decide +kernel⟩,
      .cons (.quoted (List.mem_cons_of_mem _ List.mem_cons_self) "A.X") .nil, rfl⟩
  · exact ⟨["N" ++ Vocabulary.pathSeparator ++ "A"], [[.word "N", .word "A"]],
      ⟨by decide +kernel, by decide +kernel, by decide +kernel⟩,
      .cons (.dotted (.more "N" close (.last "A"))) .nil, rfl⟩
  · exact ⟨["N" ++ (" " ++ Vocabulary.pathSeparator ++ " ") ++ "A"], [[.word "N", .word "A"]],
      ⟨by decide +kernel, by decide +kernel, by decide +kernel⟩,
      .cons (.dotted (.more "N" wide (.last "A"))) .nil, rfl⟩

end Catalog

end DeclMerge
