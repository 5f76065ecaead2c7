import DeclMerge.Proofs.Catalog.Identity
import DeclMerge.Proofs.Program.Turns

/-!
# What an operation names

A declaration with a name and a request for a key name something; no other operation does. All
that naming does to the world follows from `World.naming?`: the questions that sessions are
asked and the notes about keys (`perform_naming`), and the key by which the operation goes
(`keyedBy_naming`).
-/
namespace DeclMerge

def Note.IsAboutKey (note : Note) : Prop := note.topic = .key

instance : DecidablePred Note.IsAboutKey := fun note => inferInstanceAs (Decidable (note.topic = _))

theorem Naming.isAboutKey_notes (naming : Naming) :
    ∀ note ∈ naming.result.notes, note.IsAboutKey := by
  intro note member
  unfold Naming.result Scope.keyOf at member
  split at member
  · cases member
  · cases member
  next space =>
    split at member
    · rw [List.mem_singleton.mp member]
      rfl
    · rw [List.mem_singleton.mp member]
      rfl
    next session identifier =>
      unfold Session.keyAt at member
      dsimp only at member
      split at member
      · cases member
      · rw [List.mem_singleton.mp member]
        rfl
      · cases member

theorem Naming.filter_notes (naming : Naming) :
    naming.result.notes.filter (·.IsAboutKey) = naming.result.notes :=
  List.filter_eq_self.mpr fun note member => decide_eq_true (naming.isAboutKey_notes note member)

namespace Catalog

/-- What a request names. -/
def naming? (catalog : Catalog) (store : Store) (current : Option Session) :
    Request Id → Option Naming
  | .declare raw (some name) context => some (catalog.naming store current raw name context)
  | _ => none

/-- Sessions are asked, and notes about keys are made, for the sake of naming alone. -/
theorem perform_naming (catalog : Catalog) (store : Store) (current : Option Session)
    (request : Request Id) :
    let outcome := catalog.perform store current request
    let naming := catalog.naming? store current request
    outcome.calls = naming.elim [] (·.result.calls) ∧
      outcome.notes.filter (·.IsAboutKey) = naming.elim [] (·.result.notes) := by
  have effect := catalog.perform_effect store current request
  dsimp only
  generalize catalog.perform store current request = outcome at effect
  cases effect with
  | made plain =>
    unfold Request.plain? at plain
    split at plain
    case h_5 => cases plain
    all_goals exact ⟨rfl, rfl⟩
  | unnamed | unread => exact ⟨rfl, Naming.filter_notes _⟩
  | merged | registered =>
    refine ⟨rfl, ?_⟩
    rw [List.filter_append, Naming.filter_notes]
    exact List.append_nil _
  | _ => exact ⟨rfl, rfl⟩

end Catalog

theorem Request.eq_declare_of_resolve {κ ι : Type} {find : κ → Except Fault ι}
    {request : Request κ} {raw : Option Node} {name : Option String} {context : Option ι}
    (found : request.resolve find = .ok (.declare raw name context)) :
    ∃ context', request = .declare raw name context' := by
  cases request with
  | declare raw name context' =>
    cases here : context'.mapM find with
    | error fault =>
      rw [Request.resolve, here] at found
      cases found
    | ok context =>
      rw [Request.resolve, here] at found
      cases found
      exact ⟨context', rfl⟩
  | overload raw name context' =>
    cases here : context'.mapM find with
    | error fault =>
      rw [Request.resolve, here] at found
      cases found
    | ok context =>
      rw [Request.resolve, here] at found
      cases found
  | _ => cases found

namespace World

variable {n : Nat}

/-- What an operation names. A context that is not found fails it before that. -/
def naming? (world : World n) : Operation n → Option Naming
  | .resolve name (some scope) raw session =>
    some { scope, name, raw, session := session.or world.current }
  | .request place request =>
    (request.resolve world.find).toOption.bind
      ((world.catalog place).naming? world.store world.current)
  | _ => none

/-- The session that an operation asks in any case, whichever is in force. -/
def own? (world : World n) : Operation n → Option Session
  | .resolve _ _ _ session => session
  | .request place _ => (world.catalog place).session
  | _ => none

theorem own?_congr {world other : World n}
    (sessions : ∀ place : Fin n, (other.catalog place).session = (world.catalog place).session)
    (operation : Operation n) : other.own? operation = world.own? operation := by
  cases operation with
  | request place request => exact sessions place
  | _ => rfl

/-- A request that names something is one for a declaration, whose context is found. -/
theorem declare_of_naming? {world : World n} {place : Fin n} {request : Request Label}
    {naming : Naming} (names : world.naming? (.request place request) = some naming) :
    ∃ raw name label context, request = .declare raw (some name) label ∧
      request.resolve world.find = .ok (.declare raw (some name) context) ∧
      naming = (world.catalog place).naming world.store world.current raw name context := by
  unfold naming? at names
  dsimp only at names
  cases found : request.resolve world.find with
  | error fault =>
    rw [found] at names
    cases names
  | ok asked =>
    rw [found] at names
    cases asked with
    | declare raw name context =>
      cases name with
      | none => cases names
      | some name =>
        cases names
        obtain ⟨label, rfl⟩ := Request.eq_declare_of_resolve found
        exact ⟨raw, name, label, context, rfl, rfl, rfl⟩
    | _ => cases names

/-- A session of one's own goes before the session in force. -/
theorem session_naming? {world : World n} {operation : Operation n} {naming : Naming}
    (names : world.naming? operation = some naming) :
    naming.session = (world.own? operation).or world.current := by
  cases operation with
  | resolve name scope raw session =>
    cases scope with
    | none => cases names
    | some scope =>
      cases names
      rfl
  | request place request =>
    obtain ⟨raw, name, label, context, _, _, rfl⟩ := declare_of_naming? names
    rfl
  | _ => cases names

/-- An operation asks sessions, and notes something about keys, for the sake of naming alone. -/
theorem perform_naming (world : World n) (operation : Operation n) :
    (world.perform operation).1.calls =
      world.calls ++ (world.naming? operation).elim [] (·.result.calls) ∧
    (world.perform operation).2.notes.filter (·.IsAboutKey) =
      (world.naming? operation).elim [] (·.result.notes) := by
  have nothing : world.calls = world.calls ++ [] := (List.append_nil _).symm
  have aside := world.perform_aside operation
  cases operation with
  | resolve name scope raw session =>
    cases scope with
    | none => exact ⟨nothing, rfl⟩
    | some scope => exact ⟨rfl, Naming.filter_notes ⟨scope, name, raw, session.or world.current⟩⟩
  | request place request =>
    unfold World.perform World.request naming?
    dsimp only
    cases found : request.resolve world.find with
    | error fault => exact ⟨nothing, rfl⟩
    | ok request =>
      obtain ⟨calls, notes⟩ :=
        (world.catalog place).perform_naming world.store world.current request
      exact ⟨congrArg (world.calls ++ ·) calls, notes⟩
  | current => exact ⟨nothing, rfl⟩
  | _ =>
    obtain ⟨silent, same⟩ := aside trivial
    have kept := same world.calls world.current
    refine ⟨?_, by rw [silent]; rfl⟩
    rw [kept]
    exact nothing

/-- Operations leave the sessions of catalogs as they are. -/
theorem session_perform (world : World n) (operation : Operation n) (place : Fin n) :
    ((world.perform operation).1.catalog place).session = (world.catalog place).session := by
  by_cases addressed : ∀ other ∈ operation.catalog?, place ≠ other
  · rw [(world.perform_elsewhere operation).2.2 place addressed]
  · cases operation with
    | request other request =>
      have same : place = other := by
        by_contra apart
        exact addressed fun _ is => by cases is; exact apart
      subst same
      rw [World.perform]
      cases found : request.resolve world.find with
      | error fault => rw [World.request, found]
      | ok asked =>
        rw [(world.request_of_resolved place found).1]
        exact (Catalog.own_table _ world.store world.current asked).1
    | count | hasModule | lookup => rfl
    | _ =>
      refine absurd (fun _ is => ?_) addressed
      cases is

/-- Asked for a declaration under this key, the table that was `known` became `bound`: it binds
the key to the item that is answered, which is the old one if there was one, and binds no other
key anew. If the key or the shapes cannot be read, that is answered and the table stays. -/
def Bound (known bound : Table Id) (raw : Option Node) (key : Except Utf8.Fault String)
    (result : Except Fault Reply) : Prop :=
  match key, shapesOf raw with
  | .error fault, _ | .ok _, .error fault =>
    result = .error (.undecodable fault) ∧ bound = known
  | .ok key, .ok _ =>
    ∃ id content, result = .ok (.item id content) ∧ bound.get? key = some id ∧
      (∀ old ∈ known.get? key, old = id) ∧ ∀ other ≠ key, bound.get? other = known.get? other

/-- The operation goes by this key: a declaration is bound to it, otherwise it is answered. -/
def KeyedBy (world : World n) (key : Except Utf8.Fault String) (operation : Operation n) : Prop :=
  let (after, report) := world.perform operation
  match operation with
  | .request place (.declare raw _ _) =>
    Bound (world.catalog place).declarations (after.catalog place).declarations raw key
      report.result
  | _ => report.result = (key.mapError .undecodable).map .key

/-- A declaration with a name is bound to the key that it reads. -/
theorem bound_declare (catalog : Catalog) (store : Store) (current : Option Session)
    (raw : Option Node) (name : String) (context : Option Id) :
    let request := Request.declare raw (some name) context
    let outcome := catalog.perform store current request
    Bound catalog.declarations outcome.catalog.declarations raw
      (catalog.naming store current raw name context).key
      (outcome.result.map (request.reply outcome.store)) := by
  have effect := catalog.perform_effect store current (.declare raw (some name) context)
  dsimp only
  generalize catalog.perform store current (.declare raw (some name) context) = outcome at effect
  unfold Bound
  cases effect with
  | made plain => cases plain
  | unnamed unnamed =>
    rw [unnamed]
    exact ⟨rfl, rfl⟩
  | unread named unread =>
    rw [named, unread]
    exact ⟨rfl, rfl⟩
  | merged named read known =>
    rw [named, read]
    refine ⟨_, _, rfl, known, ?_, fun _ _ => rfl⟩
    intro old found
    exact Option.some.inj (found.symm.trans known)
  | registered named read unknown =>
    rw [named, read]
    refine ⟨_, _, rfl, Table.get?_set_self .., ?_, ?_⟩
    · intro old found
      cases unknown.symm.trans found
    · intro other apart
      exact Table.get?_set_of_ne _ _ apart.symm

/-- An operation that names something goes by its key. -/
theorem keyedBy_naming {world : World n} {operation : Operation n} {naming : Naming}
    (names : world.naming? operation = some naming) : world.KeyedBy naming.key operation := by
  cases operation with
  | resolve name scope raw session =>
    cases scope with
    | none => cases names
    | some scope =>
      cases names
      rfl
  | request place request =>
    obtain ⟨raw, name, label, context, rfl, found, rfl⟩ := declare_of_naming? names
    obtain ⟨catalog, _, result, _⟩ := world.request_of_resolved place found
    change Bound _ ((world.request place _).1.catalog place).declarations raw _
      (world.request place _).2.result
    rw [catalog, result]
    exact bound_declare _ world.store world.current raw name context
  | _ => cases names

end World

end DeclMerge
