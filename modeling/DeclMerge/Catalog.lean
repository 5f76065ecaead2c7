import DeclMerge.Fault
import DeclMerge.Output.Store
import DeclMerge.Shape.Contribution

/-!
# Catalogs

A catalog belongs to one run over declaration files. It keeps one item per module name, one item
per merge key, and a counter per function name. Declarations of one key share an item, which
carries every distinct shape that any of them contributed; overloads of one function never merge,
each gets a child of its own under the name with a number behind it.

A request that fails leaves tables and items as they were; only the counter of an overload is
raised before anything can fail. What a request fails on does not depend on what the catalog
holds: the shapes of a statement are read before its key is looked up.
-/
namespace DeclMerge

structure Catalog where
  -- Asked instead of the current session.
  session : Option Session := none
  modules : Table Id := ∅
  declarations : Table Id := ∅
  overloads : Table Nat := ∅

/-- What came of a request: the item, or the fault, and everything as it is afterwards. -/
structure Outcome where
  result : Except Fault Id
  catalog : Catalog
  store : Store
  calls : List Call := []
  notes : List Note := []

namespace Catalog

/-- How many overloads of a function were asked for. -/
def count (catalog : Catalog) (name : String) : Nat := (catalog.overloads.get? name).getD 0

/-- The numbers of modules and of declarations. -/
def sizes (catalog : Catalog) : Nat × Nat := (catalog.modules.size, catalog.declarations.size)

/-- The session that is asked while `current` is the session in force. -/
def effective (catalog : Catalog) (current : Option Session) : Option Session :=
  catalog.session.or current

/-- A new item that no table knows. -/
def create (catalog : Catalog) (store : Store) (content : Content) : Outcome where
  result := .ok store.next
  catalog
  store := store.add content

/-- The item of a module, made when its name is first met. -/
def openModule (catalog : Catalog) (store : Store) (name : String) : Outcome :=
  match catalog.modules.get? name with
  | some id => { result := .ok id, catalog, store }
  | none =>
    { result := .ok store.next
      catalog := { catalog with modules := catalog.modules.set name store.next }
      store := store.add (.ofModule name)
      notes := [.moduleCreated name] }

/-- Merge the shapes of a statement into the item of its key, or make that item. -/
def merge (catalog : Catalog) (store : Store) (raw : Option Node) (key : String)
    (shapes : List Shape) : Outcome :=
  match catalog.declarations.get? key with
  | some id =>
    let merged := store.absorb id shapes
    let added := countNovel (store.shapes id) shapes
    { result := .ok id
      catalog
      store := merged
      notes := [.merged key added (merged.shapes id).length] }
  | none =>
    { result := .ok store.next
      catalog := { catalog with declarations := catalog.declarations.set key store.next }
      store := store.add (.ofShapes raw shapes)
      notes := [.registered key] }

/-- A declaration with a name is merged with those of its key. One without a name is never met
again, so it gets an item that no table knows. -/
def declare (catalog : Catalog) (store : Store) (current : Option Session) (raw : Option Node)
    (name : Option String) (context : Option Id) : Outcome :=
  match name with
  | none =>
    match shapesOf raw with
    | .error fault => { result := .error (.undecodable fault), catalog, store }
    | .ok shapes => catalog.create store (.ofShapes raw shapes)
  | some name =>
    let named := (store.scopeAt context).keyOf name raw (catalog.effective current)
    match named.key, shapesOf raw with
    | .error fault, _ | .ok _, .error fault =>
      { result := .error (.undecodable fault), catalog, store
        calls := named.calls, notes := named.notes }
    | .ok key, .ok shapes =>
      let outcome := catalog.merge store raw key shapes
      { outcome with calls := named.calls, notes := named.notes ++ outcome.notes }

/-- The name of the overload with this number. -/
def overloadKey (name : String) (number : Nat) : String := name ++ number.repr

/-- One more overload of a function: a new child of its context, under its own number. -/
def overload (catalog : Catalog) (store : Store) (raw : Option Node) (name : String)
    (context : Option Id) : Outcome :=
  let number := catalog.count name + 1
  let catalog := { catalog with overloads := catalog.overloads.set name number }
  match context, shapesOf raw with
  | none, _ => { result := .error (.lacking none .setChild), catalog, store }
  | some _, .error fault => { result := .error (.undecodable fault), catalog, store }
  | some parent, .ok shapes =>
    { result := .ok store.next
      catalog
      store := (store.add (.ofShapes raw shapes)).setChild parent (overloadKey name number)
        (some store.next) }

end Catalog

/-- What a catalog can be asked for; contexts are given by what `κ` stands for. -/
inductive Request (κ : Type) where
  | openModule (name : String)
  | openNamespace (name : String)
  | declare (raw : Option Node) (name : Option String) (context : Option κ)
  | overload (raw : Option Node) (name : String) (context : Option κ)
  | importing (raw : Option Node)
  | exporting (raw : Option Node)
  | exportDeclaration (raw : Option Node)

/-- The function whose overloads a request counts. -/
def Request.counted? {κ : Type} : Request κ → Option String
  | .overload _ name _ => some name
  | _ => none

/-- The same request with its context looked up; one that is not found fails the request. -/
def Request.resolve {κ ι : Type} (find : κ → Except Fault ι) :
    Request κ → Except Fault (Request ι)
  | .openModule name => .ok (.openModule name)
  | .openNamespace name => .ok (.openNamespace name)
  | .declare raw name context => (context.mapM find).map (.declare raw name)
  | .overload raw name context => (context.mapM find).map (.overload raw name)
  | .importing raw => .ok (.importing raw)
  | .exporting raw => .ok (.exporting raw)
  | .exportDeclaration raw => .ok (.exportDeclaration raw)

namespace Catalog

/-- Answer a request while `current` is the session in force. -/
def perform (catalog : Catalog) (store : Store) (current : Option Session) :
    Request Id → Outcome
  | .openModule name => catalog.openModule store name
  | .openNamespace name => catalog.create store (.ofNamespace name)
  | .declare raw name context => catalog.declare store current raw name context
  | .overload raw name context => catalog.overload store raw name context
  | .importing raw => catalog.create store (.imported raw)
  | .exporting raw => catalog.create store (.exported raw)
  | .exportDeclaration raw => catalog.create store (.exportDeclared raw)

end Catalog

end DeclMerge
