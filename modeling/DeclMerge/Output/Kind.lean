/-!
# Kinds of items

What an item of the output stands for, and the two ways to name that: the word for the kind, and
the label under which a fault speaks of an item.
-/
namespace DeclMerge

inductive Kind where
  | plain
  | ofModule
  | ofNamespace
  | declared
  | imported
  | exported
  | exportDeclared
  deriving DecidableEq, Repr

namespace Kind

def word : Kind → String
  | .plain => "node"
  | .ofModule => "module"
  | .ofNamespace => "namespace"
  | .declared => "declaration"
  | .imported => "import"
  | .exported => "export"
  | .exportDeclared => "export_declaration"

def label : Kind → String
  | .plain => "Node"
  | .ofModule => "ModuleNode"
  | .ofNamespace => "NamespaceNode"
  | .declared => "DeclarationNode"
  | .imported => "ImportNode"
  | .exported => "ExportNode"
  | .exportDeclared => "ExportDeclarationNode"

end Kind

/-- What can be asked of an item. Only declarations take shapes. -/
inductive Feature where
  | kind
  | children
  | setChild
  | absorb
  deriving DecidableEq, Repr

def Feature.label : Feature → String
  | .kind => "kind"
  | .children => "children"
  | .setChild => "add_child"
  | .absorb => "maybe_add_members"

end DeclMerge
