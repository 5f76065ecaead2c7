import DeclMerge.Catalog
import DeclMerge.Proofs.Output.Mirror

/-!
# A catalog over a part of a store

Two catalogs that hold the same names over stores of which one mirrors a part of the other answer
the same requests alike. Whatever is made or changed on the way belongs to the mirrored part:
`perform_follows`.
-/
namespace DeclMerge

/-- The same request in a related context. -/
inductive Request.Alike {ι κ : Type} (related : ι → κ → Prop) : Request ι → Request κ → Prop where
  | openModule (name : String) : Alike related (.openModule name) (.openModule name)
  | openNamespace (name : String) : Alike related (.openNamespace name) (.openNamespace name)
  | declare (raw : Option Node) (name : Option String) {context : Option ι} {context' : Option κ}
      (contexts : Option.Rel related context context') :
      Alike related (.declare raw name context) (.declare raw name context')
  | overload (raw : Option Node) (name : String) {context : Option ι} {context' : Option κ}
      (contexts : Option.Rel related context context') :
      Alike related (.overload raw name context) (.overload raw name context')
  | importing (raw : Option Node) : Alike related (.importing raw) (.importing raw)
  | exporting (raw : Option Node) : Alike related (.exporting raw) (.exporting raw)
  | exportDeclaration (raw : Option Node) :
      Alike related (.exportDeclaration raw) (.exportDeclaration raw)

namespace Catalog

/-- The same names on both sides, with items that stand for each other. -/
structure Mirrors (items : List Id) (own shared : Catalog) : Prop where
  session : own.session = shared.session
  modules : own.modules.Alike (Stands items) shared.modules
  declarations : own.declarations.Alike (Stands items) shared.declarations
  overloads : own.overloads = shared.overloads

namespace Mirrors

variable {items : List Id} {own shared : Catalog}

theorem append (mirrors : own.Mirrors items shared) (more : List Id) :
    own.Mirrors (items ++ more) shared where
  session := mirrors.session
  modules := mirrors.modules.mono fun _ _ stands => stands.append more
  declarations := mirrors.declarations.mono fun _ _ stands => stands.append more
  overloads := mirrors.overloads

theorem effective_eq (mirrors : own.Mirrors items shared) (current : Option Session) :
    own.effective current = shared.effective current := by
  rw [effective, effective, mirrors.session]

theorem count_eq (mirrors : own.Mirrors items shared) (name : String) :
    own.count name = shared.count name := by
  rw [count, count, mirrors.overloads]

theorem sizes_eq (mirrors : own.Mirrors items shared) : own.sizes = shared.sizes := by
  rw [sizes, sizes, mirrors.modules.size_eq, mirrors.declarations.size_eq]

end Mirrors

/-- Two outcomes that are alike, where the items of the first stand for items of the second. -/
structure FollowUp (items : List Id) (own shared : Store) (left right : Outcome) : Prop where
  store : Store.Follows items own shared left.store right.store
  catalog : left.catalog.Mirrors (items ++ shared.since right.store) right.catalog
  result : Likewise (Stands (items ++ shared.since right.store)) left.result right.result
  notes : left.notes = right.notes

variable {items : List Id} {own shared : Store} {catalog catalog' : Catalog}

private theorem followUp_add (mirrors : own.Mirrors items shared)
    (catalogs : catalog.Mirrors (items ++ [shared.next]) catalog') (content : Content)
    (calls calls' : List Call) (notes : List Note) :
    FollowUp items own shared ⟨.ok own.next, catalog, own.add content, calls, notes⟩
      ⟨.ok shared.next, catalog', shared.add content, calls', notes⟩ where
  store := .add mirrors content
  catalog := by
    rw [Store.since_add]
    exact catalogs
  result := by
    rw [Store.since_add]
    exact .ok mirrors.stands_next
  notes := rfl

variable (mirrors : own.Mirrors items shared) (catalogs : catalog.Mirrors items catalog')

include mirrors catalogs

/-- Nothing happens to the items, and the answer is an older one or none. -/
private theorem followUp_same {result result' : Except Fault Id}
    (results : Likewise (Stands items) result result') (calls calls' : List Call)
    (notes : List Note) :
    FollowUp items own shared ⟨result, catalog, own, calls, notes⟩
      ⟨result', catalog', shared, calls', notes⟩ where
  store := .refl mirrors
  catalog := catalogs.append _
  result := results.mono fun _ _ stands => stands.append _
  notes := rfl

theorem create_follows (content : Content) :
    FollowUp items own shared (catalog.create own content) (catalog'.create shared content) :=
  followUp_add mirrors (catalogs.append _) content [] [] []

theorem openModule_follows (name : String) :
    FollowUp items own shared (catalog.openModule own name) (catalog'.openModule shared name) := by
  have known := catalogs.modules.get? name
  rw [openModule, openModule]
  generalize catalog.modules.get? name = bound, catalog'.modules.get? name = bound' at known
  cases known with
  | some stands => exact followUp_same mirrors catalogs (.ok stands) [] [] []
  | none =>
    have longer := catalogs.append [shared.next]
    have registered : Mirrors (items ++ [shared.next])
        { catalog with modules := catalog.modules.set name own.next }
        { catalog' with modules := catalog'.modules.set name shared.next } :=
      { longer with modules := longer.modules.set name mirrors.stands_next }
    exact followUp_add mirrors registered (.ofModule name) [] [] _

theorem merge_follows (raw : Option Node) (key : String) (shapes : List Shape) :
    FollowUp items own shared (catalog.merge own raw key shapes)
      (catalog'.merge shared raw key shapes) := by
  have known := catalogs.declarations.get? key
  rw [merge, merge]
  generalize catalog.declarations.get? key = bound, catalog'.declarations.get? key = bound'
    at known
  cases known with
  | @some id other stands =>
    have follows := Store.Follows.absorb mirrors stands shapes
    have before := mirrors.shapes_eq stands
    have after := follows.mirrors.shapes_eq (stands.append _)
    refine ⟨follows, catalogs.append _, .ok (stands.append _), ?_⟩
    dsimp only
    rw [before, after]
  | none =>
    have longer := catalogs.append [shared.next]
    have registered : Mirrors (items ++ [shared.next])
        { catalog with declarations := catalog.declarations.set key own.next }
        { catalog' with declarations := catalog'.declarations.set key shared.next } :=
      { longer with declarations := longer.declarations.set key mirrors.stands_next }
    exact followUp_add mirrors registered (.ofShapes raw shapes) [] [] _

theorem declare_follows (current : Option Session) (raw : Option Node) (name : Option String)
    {context context' : Option Id}
    (contexts : Option.Rel (Stands items) context context') :
    FollowUp items own shared (catalog.declare own current raw name context)
      (catalog'.declare shared current raw name context') := by
  cases name with
  | none =>
    rw [declare, declare]
    split
    next fault _ => exact followUp_same mirrors catalogs (.error _) [] [] []
    next shapes _ => exact create_follows mirrors catalogs (.ofShapes raw shapes)
  | some name =>
    -- Both sides name the declaration alike, since they see one scope and one session.
    rw [declare, declare]
    dsimp only
    rw [mirrors.scopeAt_eq contexts, catalogs.effective_eq current]
    split
    next fault _ => exact followUp_same mirrors catalogs (.error _) _ _ _
    next fault key _ _ => exact followUp_same mirrors catalogs (.error _) _ _ _
    next key shapes _ _ =>
      have merged := merge_follows mirrors catalogs raw key shapes
      exact ⟨merged.store, merged.catalog, merged.result, congrArg (_ ++ ·) merged.notes⟩

theorem overload_follows (raw : Option Node) (name : String) {context context' : Option Id}
    (contexts : Option.Rel (Stands items) context context') :
    FollowUp items own shared (catalog.overload own raw name context)
      (catalog'.overload shared raw name context') := by
  have counts := catalogs.count_eq name
  have counted : Mirrors items
      { catalog with overloads := catalog.overloads.set name (catalog'.count name + 1) }
      { catalog' with overloads := catalog'.overloads.set name (catalog'.count name + 1) } :=
    { catalogs with overloads := congrArg (Table.set · name _) catalogs.overloads }
  unfold overload
  dsimp only
  rw [counts]
  cases contexts with
  | none => exact followUp_same mirrors counted (.error _) [] [] []
  | some stands =>
    cases shapesOf raw with
    | error fault => exact followUp_same mirrors counted (.error _) [] [] []
    | ok shapes =>
      have placed := Store.Follows.addChild mirrors stands (.ofShapes raw shapes)
        (overloadKey name (catalog'.count name + 1))
      refine ⟨placed, counted.append _, ?_, rfl⟩
      dsimp only
      rw [Store.setChild, Store.since_modify, Store.since_add]
      exact .ok mirrors.stands_next

/-- The same request, asked over a part of a store and over the whole: the outcomes are alike. -/
theorem perform_follows (current : Option Session)
    {request request' : Request Id} (requests : request.Alike (Stands items) request') :
    FollowUp items own shared (catalog.perform own current request)
      (catalog'.perform shared current request') := by
  cases requests with
  | openModule name => exact openModule_follows mirrors catalogs name
  | declare raw name contexts => exact declare_follows mirrors catalogs current raw name contexts
  | overload raw name contexts => exact overload_follows mirrors catalogs raw name contexts
  | _ => exact create_follows mirrors catalogs _

end Catalog

end DeclMerge
