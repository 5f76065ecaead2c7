import DeclMerge.Syntax.Tree

/-!
# Symbols and sessions

A session is whoever can say which symbol an identifier stands for and how the path to a symbol
is written. Its answers depend on the question alone. Sessions are told apart by their numbers,
so that a record of questions can say who was asked.
-/
namespace DeclMerge

structure Symbol where
  name : String
  -- The names of the enclosing namespaces and modules, the outermost first.
  enclosing : List String := []
  -- Whether `export default` made it.
  isDefault : Bool := false
  deriving DecidableEq, Repr

structure Session where
  number : Nat
  symbolAt : Node → Except Utf8.Fault (Option Symbol)
  -- The path to a symbol found at an identifier. The flag asks for the default marker.
  pathOf : Symbol → Node → Bool → Except Utf8.Fault String

/-- A question that a session was asked. -/
inductive Query where
  | symbolAt (identifier : Node)
  | pathOf (symbol : Symbol) (identifier : Node) (withMarker : Bool)

/-- A question with the number of the session that was asked. -/
structure Call where
  session : Nat
  query : Query

/-- The session that answers every question alike. -/
def Session.fixed (number : Nat) (symbol : Option Symbol) (path : String) : Session where
  number
  symbolAt _ := .ok symbol
  pathOf _ _ _ := .ok path

end DeclMerge
