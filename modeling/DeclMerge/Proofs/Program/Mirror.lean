import DeclMerge.Proofs.Catalog.Mirror
import DeclMerge.Proofs.Program.Turns

/-!
# A world inside another one

A world mirrors the part that belongs to one catalog of another world: the items made for it, the
catalog itself, and the labels under which these items are kept. An operation that is handed
nothing else than that (`Operation.Within`) is reported of alike in both worlds, and it touches
nothing else (`perform_follows`).
-/
namespace DeclMerge

/-- The labels that a request is handed. -/
def Request.labels {κ : Type} : Request κ → List κ
  | .declare _ _ context | .overload _ _ context => context.toList
  | _ => []

namespace Operation

variable {n : Nat}

/-- The labels that an operation is handed. -/
def labels : Operation n → List Label
  | .request _ asks => asks.labels
  | .scope context | .child context _ | .absorb context _ => context.toList
  | .setChild context _ put => context.toList ++ put.toList
  | _ => []

/-- An operation that is addressed to no other catalog, and to which no other items are handed. -/
structure Within (operation : Operation n) (place : Fin n) (items : List Id) (labels : Table Id) :
    Prop where
  catalog : ∀ other ∈ operation.catalog?, other = place
  items : ∀ label ∈ operation.labels, ∀ id ∈ labels.get? label, id ∈ items

end Operation

/-- The same reply about items that stand for each other. -/
inductive Reply.Alike (items : List Id) : Reply → Reply → Prop where
  | silent {reply : Reply} (silent : reply.mentions = []) : Alike items reply reply
  | item {id other : Id} (stands : Stands items id other) (content : Content) :
      Alike items (.item id content) (.item other content)
  | children {entries others : List (String × Option Id)}
      (alike : Entries.Alike (Option.Rel (Stands items)) entries others) :
      Alike items (.children entries) (.children others)
  | entry {id other : Option Id} (stand : Option.Rel (Stands items) id other) :
      Alike items (.entry id) (.entry other)

structure Report.Alike (items : List Id) (own shared : Report) : Prop where
  result : Likewise (Reply.Alike items) own.result shared.result
  count : own.count = shared.count
  sizes : own.sizes = shared.sizes
  notes : own.notes = shared.notes

theorem Reply.Alike.append {items : List Id} {own shared : Reply} (alike : own.Alike items shared)
    (more : List Id) : own.Alike (items ++ more) shared := by
  cases alike with
  | silent silent => exact .silent silent
  | item stands content => exact .item (stands.append more) content
  | children alike =>
    refine .children (List.Forall₂.imp (fun _ _ here => ⟨here.1, ?_⟩) alike)
    exact Stands.append_rel here.2 more
  | entry stand => exact .entry (Stands.append_rel stand more)

theorem Report.Alike.append {items : List Id} {own shared : Report}
    (alike : own.Alike items shared) (more : List Id) : own.Alike (items ++ more) shared :=
  { alike with result := alike.result.mono fun _ _ here => here.append more }

theorem Reply.Alike.item? {items : List Id} {own shared : Reply} (alike : own.Alike items shared) :
    Option.Rel (Stands items) own.item? shared.item? := by
  cases alike with
  | silent silent =>
    cases own with
    | item id content => cases silent
    | entry id =>
      cases id with
      | none => exact .none
      | some id => cases silent
    | _ => exact .none
  | item stands content => exact .some stands
  | children alike => exact .none
  | entry stand => exact stand

/-- Answers to questions are about no items. -/
theorem Question.answer_alike (question : Question) (items : List Id) :
    Likewise (Reply.Alike items) (question.answer.mapError Fault.undecodable)
      (question.answer.mapError Fault.undecodable) := by
  have silent {α : Type} {reply : α → Reply} (read : Except Utf8.Fault α)
      (none : ∀ x, (reply x).mentions = []) :
      Likewise (Reply.Alike items) ((read.map reply).mapError Fault.undecodable)
        ((read.map reply).mapError Fault.undecodable) := by
    cases read with
    | error fault => exact .error _
    | ok x => exact .ok (.silent (none x))
  cases question with
  | text raw => exact silent _ fun _ => rfl
  | shapes raw => exact silent _ fun _ => rfl
  | path symbol raw withMarker => exact silent _ fun _ => rfl
  | symbol raw =>
    cases raw with
    | none => exact .ok (.silent rfl)
    | some identifier => exact silent _ fun _ => rfl
  | _ => exact .ok (.silent rfl)

namespace Request

variable {ι κ : Type} {related : ι → κ → Prop}

theorem resolve_alike {request : Request Label} {find : Label → Except Fault ι}
    {find' : Label → Except Fault κ}
    (found : ∀ label ∈ request.labels, Likewise related (find label) (find' label)) :
    Likewise (Alike related) (request.resolve find) (request.resolve find') := by
  cases request with
  | declare raw name context =>
    have contexts : Likewise (Option.Rel related) (context.mapM find) (context.mapM find') :=
      .mapM fun label member => found label (Option.mem_toList.mpr member)
    exact contexts.map fun _ _ here => .declare raw name here
  | overload raw name context =>
    have contexts : Likewise (Option.Rel related) (context.mapM find) (context.mapM find') :=
      .mapM fun label member => found label (Option.mem_toList.mpr member)
    exact contexts.map fun _ _ here => .overload raw name here
  | openModule name => exact .ok (.openModule name)
  | openNamespace name => exact .ok (.openNamespace name)
  | importing raw => exact .ok (.importing raw)
  | exporting raw => exact .ok (.exporting raw)
  | exportDeclaration raw => exact .ok (.exportDeclaration raw)

theorem Alike.counted?_eq {request : Request ι} {request' : Request κ}
    (alike : request.Alike related request') : request.counted? = request'.counted? := by
  cases alike <;> rfl

end Request

theorem Request.Alike.reply {items more : List Id} {own shared : Store} {id other : Id}
    {request request' : Request Id} (alike : request.Alike (Stands items) request')
    (mirrors : own.Mirrors (items ++ more) shared) (stands : Stands (items ++ more) id other) :
    (request.reply own id).Alike (items ++ more) (request'.reply shared other) := by
  have item : (Reply.item id (own.content id)).Alike (items ++ more)
      (.item other (shared.content other)) := by
    rw [mirrors.content_eq stands]
    exact .item stands _
  cases alike with
  | overload raw name contexts =>
    cases contexts with
    | none => exact item
    | some here => exact .children (mirrors.children_alike (here.append more))
  | _ => exact item

namespace World

variable {n : Nat} {place : Fin n} {items : List Id} {own shared : World n}

structure Mirrors (place : Fin n) (items : List Id) (own shared : World n) : Prop where
  store : own.store.Mirrors items shared.store
  catalog : (own.catalog place).Mirrors items (shared.catalog place)
  -- Labels may be used for other items as well, so only these are compared.
  bound : ∀ label, ∀ other ∈ items, shared.labels.get? label = some other →
    ∃ id, own.labels.get? label = some id ∧ Stands items id other
  unbound : ∀ label, shared.labels.get? label = none → own.labels.get? label = none

/-- All of these labels that are given are given to one of the items. -/
def Given (items : List Id) (given : Table Id) (labels : List Label) : Prop :=
  ∀ label ∈ labels, ∀ id ∈ given.get? label, id ∈ items

/-- What comes of one operation in both worlds: they go the same way, and report the same. -/
structure FollowUp (place : Fin n) (items : List Id) (own shared : World n)
    (left right : World n × Report) : Prop where
  store : Store.Follows items own.store shared.store left.1.store right.1.store
  catalog : (left.1.catalog place).Mirrors (items ++ shared.store.since right.1.store)
    (right.1.catalog place)
  report : left.2.Alike (items ++ shared.store.since right.1.store) right.2

namespace Mirrors

variable (mirrors : own.Mirrors place items shared)

include mirrors

theorem find_alike {label : Label}
    (handed : ∀ id ∈ shared.labels.get? label, id ∈ items) :
    Likewise (Stands items) (own.find label) (shared.find label) := by
  unfold find
  cases found : shared.labels.get? label with
  | none =>
    rw [mirrors.unbound label found]
    exact .error _
  | some other =>
    obtain ⟨id, here, stands⟩ := mirrors.bound label other (handed other found) found
    rw [here]
    exact .ok stands

theorem required_alike {context : Option Label} (feature : Feature)
    (handed : Given items shared.labels context.toList) :
    Likewise (Stands items) (own.required feature context) (shared.required feature context) := by
  cases context with
  | none => exact .error _
  | some label => exact mirrors.find_alike (handed label List.mem_cons_self)

theorem mapM_alike {context : Option Label} (handed : Given items shared.labels context.toList) :
    Likewise (Option.Rel (Stands items)) (context.mapM own.find) (context.mapM shared.find) :=
  .mapM fun label member => mirrors.find_alike (handed label (Option.mem_toList.mpr member))

/-- An operation that leaves items and catalogs alone. -/
private theorem followUp_same {report report' : Report} (alike : report.Alike items report') :
    FollowUp place items own shared (own, report) (shared, report') where
  store := .refl mirrors.store
  catalog := mirrors.catalog.append _
  report := alike.append _

private theorem followUp_silent {result result' : Except Fault Reply}
    (alike : Likewise (Reply.Alike items) result result') :
    FollowUp place items own shared (own, { result }) (shared, { result := result' }) :=
  mirrors.followUp_same ⟨alike, rfl, rfl, rfl⟩

theorem add_follows (content : Content) :
    FollowUp place items own shared (own.add content) (shared.add content) where
  store := .add mirrors.store content
  catalog := mirrors.catalog.append _
  report := by
    refine ⟨.ok (.item ?_ content), rfl, rfl, rfl⟩
    exact Store.since_add shared.store content ▸ mirrors.store.stands_next

theorem resolve_follows (current : own.current = shared.current) (name : String)
    (scope : Option Scope) (raw : Option Node) (session : Option Session) :
    FollowUp place items own shared (own.resolve name scope raw session)
      (shared.resolve name scope raw session) := by
  cases scope with
  | none => exact mirrors.followUp_silent (.error _)
  | some scope =>
    unfold World.resolve
    dsimp only
    rw [current]
    generalize scope.keyOf name raw (session.or shared.current) = named
    -- The worlds differ from those of before in the questions that were asked, so field by field.
    refine ⟨.refl mirrors.store, mirrors.catalog.append _, ?_, rfl, rfl, rfl⟩
    cases named.key with
    | error fault => exact .error _
    | ok key => exact .ok (.silent rfl)

theorem request_follows (current : own.current = shared.current) {request : Request Label}
    (handed : Given items shared.labels request.labels) :
    FollowUp place items own shared (own.request place request) (shared.request place request) := by
  have requests : Likewise (Request.Alike (Stands items)) (request.resolve own.find)
      (request.resolve shared.find) :=
    Request.resolve_alike fun label member => mirrors.find_alike (handed label member)
  have counts : (own.catalog place).count = (shared.catalog place).count :=
    funext mirrors.catalog.count_eq
  unfold World.request
  generalize request.resolve own.find = asked, request.resolve shared.find = asked' at requests
  cases requests with
  | error fault =>
    refine mirrors.followUp_same ⟨.error fault, ?_, ?_, rfl⟩
    · exact congrArg (request.counted?.map ·) counts
    · exact congrArg some mirrors.catalog.sizes_eq
  | @ok asked asked' alike =>
    have follows := Catalog.perform_follows mirrors.store mirrors.catalog own.current alike
    dsimp only
    rw [← current]
    generalize (own.catalog place).perform own.store own.current asked = outcome,
      (shared.catalog place).perform shared.store own.current asked' = outcome' at follows
    refine ⟨follows.store, ?_, ?_, ?_, ?_, follows.notes⟩
    · simpa [World.catalog] using follows.catalog
    · exact follows.result.map fun _ _ stands => alike.reply follows.store.mirrors stands
    · have counts : outcome.catalog.count = outcome'.catalog.count :=
        funext follows.catalog.count_eq
      dsimp only
      rw [counts, alike.counted?_eq]
    · exact congrArg some follows.catalog.sizes_eq

theorem inspect_follows (reply : Catalog → Reply)
    (alike : (reply (own.catalog place)).Alike items (reply (shared.catalog place))) :
    FollowUp place items own shared (own.inspect place reply) (shared.inspect place reply) :=
  mirrors.followUp_same ⟨.ok alike, rfl, congrArg some mirrors.catalog.sizes_eq, rfl⟩

theorem child_alike {context : Option Label} (key : String)
    (handed : Given items shared.labels context.toList) :
    Likewise (Reply.Alike items) (own.child context key) (shared.child context key) := by
  have parents := mirrors.required_alike .children handed
  unfold child
  generalize own.required .children context = parent,
    shared.required .children context = parent' at parents
  cases parents with
  | error fault => exact .error fault
  | @ok parent parent' stands =>
    have children := (mirrors.store.children_alike stands).get? key
    simp only [bind, Except.bind]
    generalize (own.store.children parent).get? key = child,
      (shared.store.children parent').get? key = child' at children
    cases children with
    | none => exact .error _
    | some child =>
      cases child with
      | none => exact .error _
      | @some id other here =>
        dsimp only
        rw [mirrors.store.content_eq here]
        exact .ok (.item here _)

theorem setChild_follows {context child : Option Label} (key : String)
    (handed : Given items shared.labels (context.toList ++ child.toList)) :
    FollowUp place items own shared (own.setChild context key child)
      (shared.setChild context key child) := by
  have parents := mirrors.required_alike .setChild fun label member =>
    handed label (List.mem_append_left _ member)
  have children := mirrors.mapM_alike fun label member =>
    handed label (List.mem_append_right _ member)
  unfold World.setChild
  generalize own.required .setChild context = parent,
    shared.required .setChild context = parent' at parents
  generalize child.mapM own.find = child, child.mapM shared.find = child' at children
  cases parents with
  | error fault => exact mirrors.followUp_silent (.error fault)
  | ok stands =>
    cases children with
    | error fault => exact mirrors.followUp_silent (.error fault)
    | ok here =>
      have follows := Store.Follows.setChild mirrors.store stands key here
      refine ⟨follows, mirrors.catalog.append _, .ok (.children ?_), rfl, rfl, rfl⟩
      exact follows.mirrors.children_alike (stands.append _)

theorem declaration_alike {context : Option Label}
    (handed : Given items shared.labels context.toList) :
    Likewise (fun left right => Stands items left.1 right.1 ∧ left.2 = right.2)
      (own.declaration context) (shared.declaration context) := by
  have targets := mirrors.required_alike .absorb handed
  unfold declaration
  generalize own.required .absorb context = id,
    shared.required .absorb context = other at targets
  cases targets with
  | error fault => exact .error fault
  | @ok id other stands =>
    simp only [bind, Except.bind]
    rw [mirrors.store.content_eq stands]
    cases shared.store.content other with
    | declared raw shapes => exact .ok ⟨stands, rfl⟩
    | _ => exact .error _

theorem absorb_follows {context : Option Label} (drafts : List Draft)
    (handed : Given items shared.labels context.toList) :
    FollowUp place items own shared (own.absorb context drafts) (shared.absorb context drafts) := by
  have targets := mirrors.declaration_alike handed
  unfold World.absorb
  generalize own.declaration context = target, shared.declaration context = target' at targets
  cases targets with
  | error fault => exact mirrors.followUp_silent (.error fault)
  | @ok target target' here =>
    obtain ⟨stands, before⟩ := here
    cases drafts.mapM Draft.check with
    | error problems => exact mirrors.followUp_silent (.error _)
    | ok shapes =>
      have follows := Store.Follows.absorb mirrors.store stands shapes
      refine ⟨follows, mirrors.catalog.append _, ?_, rfl, rfl, rfl⟩
      dsimp only
      rw [before, follows.mirrors.shapes_eq (stands.append _)]
      exact .ok (.silent rfl)

/-- The same operation in both worlds, handed nothing but what the first has. -/
theorem perform_follows (current : own.current = shared.current) {operation : Operation n}
    (within : operation.Within place items shared.labels) :
    FollowUp place items own shared (own.perform operation) (shared.perform operation) := by
  have handed := within.items
  cases operation with
  | ask question => exact mirrors.followUp_silent (question.answer_alike items)
  | scope context =>
    refine mirrors.followUp_silent ((mirrors.mapM_alike handed).map fun id other stand => ?_)
    rw [mirrors.store.scopeAt_eq stand]
    exact .silent rfl
  | resolve name scope raw session => exact mirrors.resolve_follows current name scope raw session
  | current =>
    refine mirrors.followUp_silent (.ok ?_)
    rw [current]
    exact .silent rfl
  | request other request =>
    cases within.catalog other rfl
    exact mirrors.request_follows current handed
  | count other name =>
    cases within.catalog other rfl
    refine mirrors.inspect_follows (fun catalog => .count (catalog.count name)) ?_
    rw [mirrors.catalog.count_eq]
    exact .silent rfl
  | hasModule other name =>
    cases within.catalog other rfl
    refine mirrors.inspect_follows (fun catalog => .found (catalog.modules.contains name)) ?_
    rw [mirrors.catalog.modules.contains_eq]
    exact .silent rfl
  | lookup other key =>
    cases within.catalog other rfl
    exact mirrors.inspect_follows (fun catalog => .entry (catalog.declarations.get? key))
      (.entry (mirrors.catalog.declarations.get? key))
  | create content => exact mirrors.add_follows content
  | createDeclaration raw =>
    unfold World.perform
    dsimp only
    split
    next fault _ => exact mirrors.followUp_silent (.error _)
    next shapes _ => exact mirrors.add_follows _
  | child context key => exact mirrors.followUp_silent (mirrors.child_alike key handed)
  | setChild context key child => exact mirrors.setChild_follows key handed
  | absorb context drafts => exact mirrors.absorb_follows drafts handed

end Mirrors

end World

end DeclMerge
