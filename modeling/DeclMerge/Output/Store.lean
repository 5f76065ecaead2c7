import DeclMerge.Output.Item

/-!
# The store of items

All items that were ever made, in the order of their making. A new item takes the next free
identity, so it differs from every item before it. Changing one item leaves the others as they
were. `get?_add` and `get?_modify` are all that is needed to reason about a store.
-/
namespace DeclMerge

structure Store where
  items : Array Item := #[]

namespace Store

instance : EmptyCollection Store := ⟨{}⟩

def size (store : Store) : Nat := store.items.size

def get? (store : Store) (id : Id) : Option Item := store.items[id]?

/-- The identity that the next item takes. -/
def next (store : Store) : Id := store.size

/-- The store with a new item, which has no children yet. -/
def add (store : Store) (content : Content) : Store := ⟨store.items.push { content }⟩

def modify (store : Store) (id : Id) (change : Item → Item) : Store :=
  ⟨store.items.modify id change⟩

def setChild (store : Store) (parent : Id) (key : String) (child : Option Id) : Store :=
  store.modify parent (Item.setChild key child)

/-- Add the shapes that a declaration lacks. -/
def absorb (store : Store) (id : Id) (more : List Shape) : Store :=
  store.modify id (Item.absorb more)

/-- What an item was made for. -/
def content (store : Store) (id : Id) : Content := ((store.get? id).map Item.content).getD .plain

/-- The shapes that an item carries. -/
def shapes (store : Store) (id : Id) : List Shape := (store.content id).shapes

/-- The children of an item under their names. -/
def children (store : Store) (id : Id) : Table (Option Id) :=
  ((store.get? id).map Item.children).getD ∅

/-- The scope that a context gives; no context is the global scope. -/
def scopeAt (store : Store) (context : Option Id) : Scope :=
  ((context.bind store.get?).map Item.scope).getD .global

theorem size_add (store : Store) (content : Content) : (store.add content).size = store.size + 1 :=
  Array.size_push ..

theorem size_modify (store : Store) (id : Id) (change : Item → Item) :
    (store.modify id change).size = store.size := Array.size_modify

theorem get?_add (store : Store) (content : Content) (id : Id) :
    (store.add content).get? id = if id = store.next then some { content } else store.get? id :=
  Array.getElem?_push

theorem get?_modify (store : Store) (id other : Id) (change : Item → Item) :
    (store.modify id change).get? other =
      if id = other then (store.get? other).map change else store.get? other :=
  Array.getElem?_modify

theorem get?_eq_none_iff (store : Store) (id : Id) : store.get? id = none ↔ store.size ≤ id :=
  Array.getElem?_eq_none_iff

end Store

end DeclMerge
