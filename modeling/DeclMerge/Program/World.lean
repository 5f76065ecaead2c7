import DeclMerge.Catalog
import DeclMerge.Program.Question

/-!
# The world of a program

A program works on one store of items and `n` catalogs, keeps items under labels, and runs under
a session that the blocks around an operation set. `World.perform` carries out one operation and
reports what it answered; an operation that fails keeps what was noted and asked before the fault.
-/
namespace DeclMerge

abbrev Label := String

inductive Operation (n : Nat) where
  | ask (question : Question)
  -- The scope that an item gives to the declarations in it.
  | scope (context : Option Label)
  -- The key of a declaration; no scope stands for one that is not known.
  | resolve (name : String) (scope : Option Scope) (raw : Option Node) (session : Option Session)
  | current
  | request (catalog : Fin n) (request : Request Label)
  | count (catalog : Fin n) (name : String)
  | hasModule (catalog : Fin n) (name : String)
  | lookup (catalog : Fin n) (key : String)
  -- An item that no catalog knows.
  | create (content : Content)
  | createDeclaration (raw : Option Node)
  | child (context : Option Label) (key : String)
  | setChild (context : Option Label) (key : String) (child : Option Label)
  | absorb (context : Option Label) (drafts : List Draft)

/-- What is told of one operation. -/
structure Report where
  result : Except Fault Reply
  -- The counter of the overload that was asked for, also if that failed.
  count : Option Nat := none
  -- The sizes of the catalog that was addressed.
  sizes : Option (Nat × Nat) := none
  notes : List Note := []

structure World (n : Nat) where
  store : Store := ∅
  catalogs : Vector Catalog n
  labels : Table Id := ∅
  current : Option Session := none
  -- All questions that sessions were asked, in order.
  calls : List Call := []

/-- What a request answers: an overload the children of its context, any other its item. -/
def Request.reply (request : Request Id) (store : Store) (id : Id) : Reply :=
  match request with
  | .overload _ _ (some parent) => .children (store.children parent).entries
  | _ => .item id (store.content id)

namespace World

variable {n : Nat}

/-- The catalog at a place. -/
def catalog (world : World n) (place : Fin n) : Catalog := world.catalogs[place]

/-- The item kept under a label. -/
def find (world : World n) (label : Label) : Except Fault Id :=
  match world.labels.get? label with
  | some id => .ok id
  | none => .error (.unknownLabel label)

/-- The item under a label, where there has to be one that has `feature`. -/
def required (world : World n) (feature : Feature) : Option Label → Except Fault Id
  | none => .error (.lacking none feature)
  | some label => world.find label

def add (world : World n) (content : Content) : World n × Report :=
  ({ world with store := world.store.add content },
    { result := .ok (.item world.store.next content) })

def resolve (world : World n) (name : String) (scope : Option Scope) (raw : Option Node)
    (session : Option Session) : World n × Report :=
  match scope with
  | none => (world, { result := .error .unknownScope })
  | some scope =>
    let named := scope.keyOf name raw (session.or world.current)
    ({ world with calls := world.calls ++ named.calls },
      { result := (named.key.mapError .undecodable).map .key, notes := named.notes })

def request (world : World n) (place : Fin n) (request : Request Label) : World n × Report :=
  let catalog := world.catalog place
  match request.resolve world.find with
  | .error fault =>
    (world, {
      result := .error fault
      count := request.counted?.map catalog.count
      sizes := some catalog.sizes })
  | .ok request =>
    let outcome := catalog.perform world.store world.current request
    ({ world with
        store := outcome.store
        catalogs := world.catalogs.set place outcome.catalog
        calls := world.calls ++ outcome.calls },
      { result := outcome.result.map (request.reply outcome.store)
        count := request.counted?.map outcome.catalog.count
        sizes := some outcome.catalog.sizes
        notes := outcome.notes })

/-- A question about a catalog. -/
def inspect (world : World n) (place : Fin n) (reply : Catalog → Reply) : World n × Report :=
  let catalog := world.catalog place
  (world, { result := .ok (reply catalog), sizes := some catalog.sizes })

def child (world : World n) (context : Option Label) (key : String) : Except Fault Reply := do
  let parent ← world.required .children context
  match (world.store.children parent).get? key with
  | some (some id) => return .item id (world.store.content id)
  | some none => throw (.lacking none .kind)
  | none => throw (.noChild key)

def setChild (world : World n) (context : Option Label) (key : String) (child : Option Label) :
    World n × Report :=
  match world.required .setChild context, child.mapM world.find with
  | .ok parent, .ok child =>
    let store := world.store.setChild parent key child
    ({ world with store }, { result := .ok (.children (store.children parent).entries) })
  | .error fault, _ | _, .error fault => (world, { result := .error fault })

/-- The declaration under a label, with the shapes that it carries. -/
def declaration (world : World n) (context : Option Label) : Except Fault (Id × List Shape) := do
  let id ← world.required .absorb context
  match world.store.content id with
  | .declared _ shapes => return (id, shapes)
  | other => throw (.lacking (some other.kind) .absorb)

/-- Add drafts to a declaration. Whether it is one comes first; then all drafts are checked, and
the first bad one is reported, before any is added. -/
def absorb (world : World n) (context : Option Label) (drafts : List Draft) : World n × Report :=
  match world.declaration context, drafts.mapM Draft.check with
  | .error fault, _ => (world, { result := .error fault })
  | .ok _, .error problems => (world, { result := .error (.invalid problems) })
  | .ok (id, before), .ok shapes =>
    let store := world.store.absorb id shapes
    let added := countNovel before shapes
    ({ world with store }, { result := .ok (.absorbed added (store.shapes id)) })

/-- Carry out one operation. -/
def perform (world : World n) : Operation n → World n × Report
  | .ask question => (world, { result := question.answer.mapError .undecodable })
  | .scope context =>
    (world, { result := (context.mapM world.find).map fun id => .scope (world.store.scopeAt id) })
  | .resolve name scope raw session => world.resolve name scope raw session
  | .current => (world, { result := .ok (.session (world.current.map Session.number)) })
  | .request place request => world.request place request
  | .count place name => world.inspect place fun catalog => .count (catalog.count name)
  | .hasModule place name =>
    world.inspect place fun catalog => .found (catalog.modules.contains name)
  | .lookup place key => world.inspect place fun catalog => .entry (catalog.declarations.get? key)
  | .create content => world.add content
  | .createDeclaration raw =>
    match shapesOf raw with
    | .error fault => (world, { result := .error (.undecodable fault) })
    | .ok shapes => world.add (.ofShapes raw shapes)
  | .child context key => (world, { result := world.child context key })
  | .setChild context key child => world.setChild context key child
  | .absorb context drafts => world.absorb context drafts

/-- Keep the item that an operation answered under a label, if it answered one. -/
def keep (world : World n) (label : Option Label) (result : Except Fault Reply) : World n :=
  match label, result.toOption.bind Reply.item? with
  | some label, some id => { world with labels := world.labels.set label id }
  | _, _ => world

end World

end DeclMerge
