import DeclMerge.Note
import DeclMerge.Symbol.Basic
import DeclMerge.Syntax.Declaration

/-!
# Merge keys

Two declarations merge exactly when they have the same key. Outside of modules and namespaces
the key is the name; in a module it is the name behind the name of the module; in a namespace a
session is asked for the qualified path. It is asked for the symbol first, and for the path only
if there is one. Without a session, a name node or a symbol the bare name is the key, and a note
says so.
-/
namespace DeclMerge

/-- Where a declaration stands, as far as its key is concerned. -/
inductive Scope where
  | global
  | inModule (name : String)
  | inNamespace (name : String)
  deriving DecidableEq, Repr

/-- A key, with the questions that it took and the notes made on the way. -/
structure KeyResult where
  key : Except Utf8.Fault String
  calls : List Call := []
  notes : List Note := []

/-- The bare name is the key. -/
def KeyResult.bare (why : Fallback) (name space : String) (calls : List Call) :
    KeyResult where
  key := .ok name
  calls
  notes := [.bareName why name space]

/-- Ask for the symbol at a name node, then for its path without the default marker. -/
def Session.keyAt (session : Session) (identifier : Node) (name space : String) : KeyResult :=
  let asked : Call := ⟨session.number, .symbolAt identifier⟩
  match session.symbolAt identifier with
  | .error fault => { key := .error fault, calls := [asked] }
  | .ok none => .bare .noSymbol name space [asked]
  | .ok (some symbol) =>
    { key := session.pathOf symbol identifier false
      calls := [asked, ⟨session.number, .pathOf symbol identifier false⟩] }

/-- The key of the declaration `name`, whose statement is `raw`. -/
def Scope.keyOf (scope : Scope) (name : String) (raw : Option Node) (session : Option Session) :
    KeyResult :=
  match scope with
  | .global => { key := .ok name }
  | .inModule owner => { key := .ok (owner ++ Vocabulary.moduleSeparator ++ name) }
  | .inNamespace space =>
    match session, raw.bind Node.nameNode? with
    | none, _ => .bare .noSession name space []
    | some _, none => .bare .noNameNode name space []
    | some session, some identifier => session.keyAt identifier name space

end DeclMerge
