import DeclMerge.Catalog

/-!
# What a request does

`Effect` lists the ways in which a request can go, each with the condition under which it goes
that way and with everything that comes of it. `perform_effect` says that the list is complete, so
a law of catalogs is proved by looking at the ways one by one.
-/
namespace DeclMerge

/-- All that decides the key of a named declaration, and the shapes that it contributes. -/
structure Naming where
  scope : Scope
  name : String
  raw : Option Node
  -- The session that is asked, if the scope asks one.
  session : Option Session

namespace Naming

def result (naming : Naming) : KeyResult :=
  naming.scope.keyOf naming.name naming.raw naming.session

def key (naming : Naming) : Except Utf8.Fault String := naming.result.key

end Naming

/-- What a request makes that asks neither a table nor a statement. -/
def Request.plain? {κ : Type} : Request κ → Option Content
  | .openNamespace name => some (.ofNamespace name)
  | .importing raw => some (.imported raw)
  | .exporting raw => some (.exported raw)
  | .exportDeclaration raw => some (.exportDeclared raw)
  | _ => none

namespace Catalog

def naming (catalog : Catalog) (store : Store) (current : Option Session) (raw : Option Node)
    (name : String) (context : Option Id) : Naming where
  scope := store.scopeAt context
  name
  raw
  session := catalog.effective current

/-- The catalog after its counter for `name` was raised. -/
def counted (catalog : Catalog) (name : String) : Catalog :=
  { catalog with overloads := catalog.overloads.set name (catalog.count name + 1) }

theorem count_counted (catalog : Catalog) (name other : String) :
    (catalog.counted name).count other =
      if name = other then catalog.count other + 1 else catalog.count other := by
  rw [count, counted, Table.get?_set]
  split
  next same =>
    rw [same]
    rfl
  · rfl

theorem count_le_counted (catalog : Catalog) (name other : String) :
    catalog.count other ≤ (catalog.counted name).count other := by
  rw [count_counted]
  split <;> omega

inductive Effect (catalog : Catalog) (store : Store) (current : Option Session) :
    Request Id → Outcome → Prop where
  | made {request : Request Id} {content : Content} (plain : request.plain? = some content) :
      Effect catalog store current request (catalog.create store content)
  | knownModule {name : String} {id : Id} (known : catalog.modules.get? name = some id) :
      Effect catalog store current (.openModule name) { result := .ok id, catalog, store }
  | newModule {name : String} (unknown : catalog.modules.get? name = none) :
      Effect catalog store current (.openModule name)
        { result := .ok store.next
          catalog := { catalog with modules := catalog.modules.set name store.next }
          store := store.add (.ofModule name)
          notes := [.moduleCreated name] }
  | anonymous {raw : Option Node} {context : Option Id} {shapes : List Shape}
      (read : shapesOf raw = .ok shapes) :
      Effect catalog store current (.declare raw none context)
        (catalog.create store (.ofShapes raw shapes))
  | unreadAnonymous {raw : Option Node} {context : Option Id} {fault : Utf8.Fault}
      (unread : shapesOf raw = .error fault) :
      Effect catalog store current (.declare raw none context)
        { result := .error (.undecodable fault), catalog, store }
  | unnamed {raw : Option Node} {name : String} {context : Option Id} {fault : Utf8.Fault}
      (unnamed : (catalog.naming store current raw name context).key = .error fault) :
      Effect catalog store current (.declare raw (some name) context)
        { result := .error (.undecodable fault), catalog, store
          calls := (catalog.naming store current raw name context).result.calls
          notes := (catalog.naming store current raw name context).result.notes }
  | unread {raw : Option Node} {name key : String} {context : Option Id} {fault : Utf8.Fault}
      (named : (catalog.naming store current raw name context).key = .ok key)
      (unread : shapesOf raw = .error fault) :
      Effect catalog store current (.declare raw (some name) context)
        { result := .error (.undecodable fault), catalog, store
          calls := (catalog.naming store current raw name context).result.calls
          notes := (catalog.naming store current raw name context).result.notes }
  | merged {raw : Option Node} {name key : String} {context : Option Id} {shapes : List Shape}
      {id : Id} (named : (catalog.naming store current raw name context).key = .ok key)
      (read : shapesOf raw = .ok shapes) (known : catalog.declarations.get? key = some id) :
      Effect catalog store current (.declare raw (some name) context)
        { result := .ok id, catalog, store := store.absorb id shapes
          calls := (catalog.naming store current raw name context).result.calls
          notes := (catalog.naming store current raw name context).result.notes ++
            [.merged key (countNovel (store.shapes id) shapes)
              ((store.absorb id shapes).shapes id).length] }
  | registered {raw : Option Node} {name key : String} {context : Option Id} {shapes : List Shape}
      (named : (catalog.naming store current raw name context).key = .ok key)
      (read : shapesOf raw = .ok shapes) (unknown : catalog.declarations.get? key = none) :
      Effect catalog store current (.declare raw (some name) context)
        { result := .ok store.next
          catalog := { catalog with declarations := catalog.declarations.set key store.next }
          store := store.add (.ofShapes raw shapes)
          calls := (catalog.naming store current raw name context).result.calls
          notes := (catalog.naming store current raw name context).result.notes ++
            [.registered key] }
  | homeless {raw : Option Node} {name : String} :
      Effect catalog store current (.overload raw name none)
        { result := .error (.lacking none .setChild), catalog := catalog.counted name, store }
  | unreadOverload {raw : Option Node} {name : String} {parent : Id} {fault : Utf8.Fault}
      (unread : shapesOf raw = .error fault) :
      Effect catalog store current (.overload raw name (some parent))
        { result := .error (.undecodable fault), catalog := catalog.counted name, store }
  | overloaded {raw : Option Node} {name : String} {parent : Id} {shapes : List Shape}
      (read : shapesOf raw = .ok shapes) :
      Effect catalog store current (.overload raw name (some parent))
        { result := .ok store.next, catalog := catalog.counted name
          store := (store.add (.ofShapes raw shapes)).setChild parent
            (overloadKey name (catalog.count name + 1)) (some store.next) }

theorem openModule_effect (catalog : Catalog) (store : Store) (current : Option Session)
    (name : String) :
    Effect catalog store current (.openModule name) (catalog.openModule store name) := by
  unfold openModule
  split
  next id known => exact .knownModule known
  next unknown => exact .newModule unknown

theorem declare_effect (catalog : Catalog) (store : Store) (current : Option Session)
    (raw : Option Node) (name : Option String) (context : Option Id) :
    Effect catalog store current (.declare raw name context)
      (catalog.declare store current raw name context) := by
  cases name with
  | none =>
    unfold declare
    dsimp only
    split
    next fault unread => exact .unreadAnonymous unread
    next shapes read => exact .anonymous read
  | some name =>
    unfold declare
    dsimp only
    split
    next fault unnamed => exact .unnamed unnamed
    next fault key named unread => exact .unread named unread
    next key shapes named read =>
      unfold merge
      split
      next id known => exact .merged named read known
      next unknown => exact .registered named read unknown

theorem overload_effect (catalog : Catalog) (store : Store) (current : Option Session)
    (raw : Option Node) (name : String) (context : Option Id) :
    Effect catalog store current (.overload raw name context)
      (catalog.overload store raw name context) := by
  unfold overload
  dsimp only
  split
  · exact .homeless
  next parent fault unread => exact .unreadOverload unread
  next parent shapes read => exact .overloaded read

/-- Every request goes one of the ways. -/
theorem perform_effect (catalog : Catalog) (store : Store) (current : Option Session)
    (request : Request Id) :
    Effect catalog store current request (catalog.perform store current request) := by
  cases request with
  | openModule name => exact openModule_effect catalog store current name
  | openNamespace name => exact .made rfl
  | declare raw name context => exact declare_effect catalog store current raw name context
  | overload raw name context => exact overload_effect catalog store current raw name context
  | importing raw => exact .made rfl
  | exporting raw => exact .made rfl
  | exportDeclaration raw => exact .made rfl

end Catalog

end DeclMerge
