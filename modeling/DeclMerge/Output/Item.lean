import DeclMerge.Key
import DeclMerge.Novel
import DeclMerge.Output.Kind
import DeclMerge.Shape.Basic
import DeclMerge.Table

/-!
# Output items

What is built for a module, a namespace, a declaration or one of the statements around them. An
item has children under names; a name may also be taken by no item. Items are told apart by their
identity, not by what they hold: two modules of one name are two items.
-/
namespace DeclMerge

/-- The identity of an item: its place in the store. -/
abbrev Id := Nat

/-- What an item is made for. -/
inductive Content where
  | plain
  | ofModule (name : String)
  | ofNamespace (name : String)
  -- A declaration with the shapes it carries.
  | declared (raw : Option Node) (shapes : List Shape)
  | imported (raw : Option Node)
  | exported (raw : Option Node)
  | exportDeclared (raw : Option Node)

/-- A new declaration carries the shapes of its statement, each once. -/
def Content.ofShapes (raw : Option Node) (shapes : List Shape) : Content :=
  .declared raw (addNovel [] shapes)

def Content.kind : Content → Kind
  | .plain => .plain
  | .ofModule _ => .ofModule
  | .ofNamespace _ => .ofNamespace
  | .declared .. => .declared
  | .imported _ => .imported
  | .exported _ => .exported
  | .exportDeclared _ => .exportDeclared

/-- The shapes of a declaration; other items carry none. -/
def Content.shapes : Content → List Shape
  | .declared _ shapes => shapes
  | _ => []

theorem Content.shapes_plain : Content.plain.shapes = [] := rfl

/-- Add the shapes that a declaration lacks. -/
def Content.absorb (content : Content) (more : List Shape) : Content :=
  match content with
  | .declared raw shapes => .declared raw (addNovel shapes more)
  | other => other

structure Item where
  content : Content
  children : Table (Option Id) := ∅

namespace Item

/-- The scope of the declarations that stand in an item. -/
def scope (item : Item) : Scope :=
  match item.content with
  | .ofModule name => .inModule name
  | .ofNamespace name => .inNamespace name
  | _ => .global

/-- Put `child` under `key`, in the place of a child that is there already. -/
def setChild (key : String) (child : Option Id) (item : Item) : Item :=
  { item with children := item.children.set key child }

def absorb (more : List Shape) (item : Item) : Item :=
  { item with content := item.content.absorb more }

end Item

end DeclMerge
