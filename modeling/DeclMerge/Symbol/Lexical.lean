import DeclMerge.Symbol.Basic
import DeclMerge.Syntax.Vocabulary

/-!
# Symbols read off the source

Without a type checker a symbol is the identifier and the names of the namespaces and modules
around its declaration. `namespace A { namespace B { interface X {} } }` makes `X` the symbol
`A.B.X`; the name of an ambient module keeps its quotes. The names around a declaration are read
from the inside out, and the identifier comes last: the first text that is not UTF-8 on that way
is the fault.
-/
namespace DeclMerge

namespace Node

/-- Whether `export default` exports the declaration: of the wrappers directly around it the
first export statement decides. -/
def exportedAsDefault (declaration : Node) : Bool :=
  ((declaration.ancestors.takeWhile (·.kind ∈ Vocabulary.wrappers)).find?
    (·.kind = "export_statement")).any fun statement => statement.children.any (·.kind = "default")

/-- The name nodes of the namespaces and modules above, the nearest first. Unnamed ones do not
count. -/
def enclosingNameNodes (declaration : Node) : List Node :=
  (declaration.ancestors.filter (·.kind ∈ Vocabulary.namespaces)).filterMap (·.child? "name")

/-- The names of the namespaces and modules above, the outermost first. -/
def enclosingNames (declaration : Node) : Except Utf8.Fault (List String) :=
  (declaration.enclosingNameNodes.mapM text).map List.reverse

end Node

namespace Lexical

/-- The symbol at an identifier. An identifier that no declaration holds has none. -/
def symbolAt (identifier : Node) : Except Utf8.Fault (Option Symbol) :=
  match identifier.parent? with
  | none => .ok none
  | some declaration => do
    let enclosing ← declaration.enclosingNames
    if declaration.exportedAsDefault then
      return some { name := Vocabulary.defaultMarker, enclosing, isDefault := true }
    else
      return some { name := ← identifier.text, enclosing }

/-- The last part of a path. The default marker gives way to the identifier, if there is one,
unless the marker is wanted. -/
def leaf (symbol : Symbol) (identifier : Option Node) (withMarker : Bool) :
    Except Utf8.Fault String :=
  match identifier with
  | none => .ok symbol.name
  | some node => if symbol.isDefault && !withMarker then node.text else .ok symbol.name

/-- The path to a symbol; without a symbol the text of the identifier. -/
def path (symbol : Option Symbol) (identifier : Option Node) (withMarker : Bool) :
    Except Utf8.Fault String :=
  match symbol with
  | none => textOf identifier
  | some symbol => (leaf symbol identifier withMarker).map fun last =>
      Vocabulary.pathSeparator.intercalate (symbol.enclosing ++ [last])

end Lexical

namespace Session

/-- The session that reads symbols off the source. -/
def lexical (number : Nat) : Session where
  number
  symbolAt := Lexical.symbolAt
  pathOf symbol identifier := Lexical.path (some symbol) (some identifier)

/-- The session that finds one and the same symbol everywhere, and writes paths as usual. -/
def constant (number : Nat) (symbol : Option Symbol) : Session :=
  { lexical number with symbolAt := fun _ => .ok symbol }

end Session

end DeclMerge
