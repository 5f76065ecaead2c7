import DeclMerge.Syntax.Declaration
import DeclMerge.Shape.Basic
import DeclMerge.Text.Signature

/-!
# What a declaration contributes

Interfaces, classes and object types contribute one shape per entry of their body; a function its
call; an alias what it stands for; an enumeration its entries; a variable statement its variables;
any other node nothing. Texts are read in the order in which a shape lists them, the name before
the signature, and the first one that is not UTF-8 decides the fault of the whole declaration.
-/
namespace DeclMerge

/-- The bytes before `offset`. An offset below zero counts back from the end. -/
def bytesBefore (offset : Int) (bytes : List UInt8) : List UInt8 :=
  match offset with
  | .ofNat n => bytes.take n
  | .negSucc n => bytes.take (bytes.length - (n + 1))

namespace Node

/-- The bytes of an entry without its body: what stands before the body describes the shape. -/
def headBytes (entry : Node) : List UInt8 :=
  match entry.child? "body" with
  | none => entry.bytes
  | some body => bytesBefore ((body.start : Int) - entry.start) entry.bytes

/-- An entry of a body; calls, constructors and index entries have no name. -/
def entryShape (entry : Node) : Except Utf8.Fault Shape := do
  let name ← (entry.child? "name").mapM text
  let head ← Utf8.decodeString entry.headBytes
  return { kind := entry.kind, name, signature := Text.normalize head }

def bodyShapes (body : Node) : Except Utf8.Fault (List Shape) :=
  (body.namedChildren.filter (·.kind ∈ Vocabulary.entries)).mapM entryShape

/-- Type parameters, parameters and return type; the last brings its own colon. -/
def functionShape (function : Node) : Except Utf8.Fault Shape := do
  let typeParameters ← textOf (function.child? "type_parameters")
  let parameters ← textOf (function.child? "parameters")
  let returnType ← textOf (function.child? "return_type")
  return {
    kind := "call_signature"
    signature := Text.normalize (typeParameters ++ parameters ++ returnType) }

def aliasShape (definition : Node) : Except Utf8.Fault Shape := do
  let typeParameters ← textOf (definition.child? "type_parameters")
  let value ← textOf (definition.child? "value")
  return { kind := "type_alias", signature := Text.normalize (typeParameters ++ " = " ++ value) }

/-- An entry of an enumeration. One without a value has no name node: all of it is the name. -/
def enumShape (entry : Node) : Except Utf8.Fault Shape := do
  let name ← ((entry.child? "name").getD entry).text
  let signature ← entry.text
  return { kind := "enum_member", name, signature := Text.normalize signature }

def enumShapes (body : Node) : Except Utf8.Fault (List Shape) :=
  (body.namedChildren.filter (·.kind ≠ "comment")).mapM enumShape

/-- A variable; its type may be missing, its initial value does not count. -/
def variableShape (declarator : Node) : Except Utf8.Fault Shape := do
  let name ← textOf (declarator.child? "name")
  let type ← textOf (declarator.child? "type")
  return { kind := "variable", name, signature := Text.normalize type }

def variableShapes (statement : Node) : Except Utf8.Fault (List Shape) :=
  (statement.namedChildren.filter (·.kind = "variable_declarator")).mapM variableShape

/-- The shapes of a declaration that no wrapper surrounds. -/
def bareShapes (node : Node) : Except Utf8.Fault (List Shape) :=
  if node.kind ∈ Vocabulary.objects then ((node.child? "body").map bodyShapes).getD (.ok [])
  else if node.kind ∈ Vocabulary.bodies then node.bodyShapes
  else if node.kind ∈ Vocabulary.functions then node.functionShape.map ([·])
  else if node.kind = "type_alias_declaration" then node.aliasShape.map ([·])
  else if node.kind = "enum_declaration" then
    ((node.child? "body").map enumShapes).getD (.ok [])
  else if node.kind ∈ Vocabulary.variableStatements then node.variableShapes
  else .ok []

end Node

/-- The shapes that a statement contributes; no statement contributes none. -/
def shapesOf : Option Node → Except Utf8.Fault (List Shape)
  | none => .ok []
  | some node => node.declaration.bareShapes

end DeclMerge
