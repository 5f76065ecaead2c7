import DeclMerge.Output.Store
import DeclMerge.Fault
import DeclMerge.Shape.Contribution
import DeclMerge.Symbol.Lexical

/-!
# Questions about source nodes

Questions whose answer depends on the source alone: no catalog, item or session has a say.
-/
namespace DeclMerge

/-- What an operation answers. -/
inductive Reply where
  | text (text : String)
  | node (node : Option Node)
  | shapes (shapes : List Shape)
  | symbol (symbol : Option Symbol)
  | path (path : String)
  | scope (scope : Scope)
  | key (key : String)
  -- The number of the session in force.
  | session (number : Option Nat)
  -- An item, with its content as it is now.
  | item (id : Id) (content : Content)
  | children (entries : List (String × Option Id))
  | count (count : Nat)
  | found (found : Bool)
  | entry (id : Option Id)
  -- How many shapes were new, and all shapes after them.
  | absorbed (added : Nat) (shapes : List Shape)

/-- The item that a reply is about, if it is about one. -/
def Reply.item? : Reply → Option Id
  | .item id _ => some id
  | .entry id => id
  | _ => none

inductive Question where
  | text (raw : Option Node)
  -- The declaration inside a statement.
  | declaration (raw : Option Node)
  -- The node that names it.
  | name (raw : Option Node)
  | shapes (raw : Option Node)
  | symbol (raw : Option Node)
  | path (symbol : Option Symbol) (raw : Option Node) (withMarker : Bool)

def Question.answer : Question → Except Utf8.Fault Reply
  | .text raw => (textOf raw).map .text
  | .declaration raw => .ok (.node (raw.map Node.declaration))
  | .name raw => .ok (.node (raw.bind Node.nameNode?))
  | .shapes raw => (shapesOf raw).map .shapes
  | .symbol none => .ok (.symbol none)
  | .symbol (some identifier) => (Lexical.symbolAt identifier).map .symbol
  | .path of raw withMarker => (Lexical.path of raw withMarker).map .path

end DeclMerge
