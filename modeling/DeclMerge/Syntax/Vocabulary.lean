/-!
# Vocabulary

The kinds of syntax nodes that matter for declarations, and the marks that keys are built with.
Each list of kinds is in alphabetical order.
-/
namespace DeclMerge.Vocabulary

/-- Joins the name of a module and the name of a declaration: `lodash$Foo`. -/
def moduleSeparator : String := "$"

/-- Joins the parts of a path through namespaces: `A.B.Foo`. -/
def pathSeparator : String := "."

/-- The name of the symbol that `export default` makes. -/
def defaultMarker : String := "default"

/-- Statements that only wrap the declaration inside. -/
def wrappers : List String := ["ambient_declaration", "export_statement"]

/-- Nodes whose names make up a path: `namespace A` and `module "a"`. -/
def namespaces : List String := ["internal_module", "module"]

def functions : List String :=
  ["function_declaration", "function_signature", "generator_function_declaration"]

/-- Declarations that carry their entries in a body. -/
def objects : List String :=
  ["abstract_class_declaration", "class_declaration", "interface_declaration"]

/-- The bodies themselves, one entry per child. -/
def bodies : List String := ["class_body", "interface_body", "object_type"]

/-- The entries of a body that contribute a shape. -/
def entries : List String :=
  ["abstract_method_signature", "call_signature", "construct_signature", "index_signature",
    "method_definition", "method_signature", "property_signature", "public_field_definition"]

def variableStatements : List String := ["lexical_declaration", "variable_declaration"]

end DeclMerge.Vocabulary
