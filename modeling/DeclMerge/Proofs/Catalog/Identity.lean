import DeclMerge.Proofs.Catalog.Change
import DeclMerge.Proofs.Catalog.Placing

/-!
# The identity of items

Which item a request answers is decided by the names and keys that came before it and by nothing
else. After any run from a fresh catalog the two registries hold exactly the names and keys that
were asked for with success, one item each, for good; and no request for a single item is ever
answered with one that existed. `identities_kept` puts this together.
-/
namespace DeclMerge.Catalog

/-! ### Modules -/

def Opened.entry (opened : Opened) : String × Id := (opened.name, opened.item)

variable {before after : State}

/-- What holds of the module registry after these modules were asked for. -/
structure ModulesHold (state : State) (told : List Opened) : Prop where
  registers : state.catalog.modules.Registers (told.map Opened.entry) state.store.next
  named : ∀ name id, state.catalog.modules.get? name = some id →
    state.store.content id = .ofModule name

namespace ModulesHold

private theorem opens {told : List Opened} {opened : Opened} (hold : ModulesHold before told)
    (how : opened.Opens before after) : ModulesHold after (told ++ [opened]) := by
  refine ⟨?_, fun name id found => ?_⟩
  · rw [List.map_append, List.map_singleton]
    exact hold.registers.arrive how.arrives
  · cases how with
    | known => exact hold.named name id found
    | new unknown next =>
      rw [Table.get?_set] at found
      split at found
      next same =>
        cases found
        rw [next, Store.content_add_next, same]
      -- The other modules are older than the new item.
      · have older := hold.registers.older name id found
        rw [Store.content_add_of_ne _ _ (Nat.ne_of_lt older)]
        exact hold.named name id found

private theorem kept {told : List Opened} (hold : ModulesHold before told)
    (modules : after.catalog.modules = before.catalog.modules)
    (grown : before.store.next ≤ after.store.next)
    (contents : ∀ {id}, id < before.store.next →
      ∃ more, after.store.content id = (before.store.content id).absorb more) :
    ModulesHold after told := by
  refine ⟨?_, ?_⟩
  · rw [modules]
    exact hold.registers.grow grown
  · rw [modules]
    intro name id found
    obtain ⟨more, absorbed⟩ := contents (hold.registers.older name id found)
    rw [absorbed, hold.named name id found]
    rfl

theorem passed {moment : Moment} {told : List Opened} (hold : ModulesHold moment.before told) :
    ModulesHold moment.after (told ++ moment.opened?.toList) := by
  cases moment.change with
  | opens here unaccepted how =>
    rw [here]
    exact hold.opens how
  | joins unopened here named how =>
    rw [unopened, Option.toList_none, List.append_nil]
    exact hold.kept how.modules_eq how.arrives.grown moment.content_absorbs
  | quiet unopened unaccepted how =>
    rw [unopened, Option.toList_none, List.append_nil]
    exact hold.kept how.modules how.grown moment.content_absorbs

end ModulesHold

theorem modules_hold (session : Option Session) (store : Store) (steps : List Step) :
    ModulesHold ((State.fresh session store).run steps)
      ((State.fresh session store).opened steps) := by
  refine State.run_records Moment.opened? _ _ steps ⟨.empty _, ?_⟩ fun _ _ _ => .passed
  intro name id found
  cases found

/-! ### Declarations -/

def Accepted.entry (accepted : Accepted) : String × Id := (accepted.key, accepted.item)

/-- What holds of the declaration registry after these declarations were accepted. -/
def DeclarationsHold (state : State) (told : List Accepted) : Prop :=
  state.catalog.declarations.Registers (told.map Accepted.entry) state.store.next

theorem DeclarationsHold.passed {moment : Moment} {told : List Accepted}
    (hold : DeclarationsHold moment.before told) :
    DeclarationsHold moment.after (told ++ moment.accepted?.toList) := by
  unfold DeclarationsHold at hold ⊢
  cases moment.change with
  | opens here unaccepted how =>
    rw [unaccepted, Option.toList_none, List.append_nil, how.declarations_eq]
    exact hold.grow how.arrives.grown
  | joins unopened here named how =>
    rw [here, Option.toList_some, List.map_append, List.map_singleton]
    exact hold.arrive how.arrives
  | quiet unopened unaccepted how =>
    rw [unaccepted, Option.toList_none, List.append_nil, how.declarations]
    exact hold.grow how.grown

theorem declarations_hold (session : Option Session) (store : Store) (steps : List Step) :
    DeclarationsHold ((State.fresh session store).run steps)
      ((State.fresh session store).accepted steps) :=
  State.run_records Moment.accepted? _ _ steps (.empty _) fun _ _ _ => .passed

/-! ### Bindings stay, and items without a key stay without -/

theorem modules_stay {name : String} {id : Id} (state : State) (later : List Step)
    (bound : state.catalog.modules.get? name = some id) :
    (state.run later).catalog.modules.get? name = some id := by
  refine State.run_preserves (fun state => state.catalog.modules.get? name = some id)
    (fun state step bound => ?_) state later bound
  cases Moment.change ⟨state, step⟩ with
  | opens told unaccepted how => exact how.arrives.keeps bound
  | joins unopened told named how => exact (congrArg (·.get? name) how.modules_eq).trans bound
  | quiet unopened unaccepted how => exact (congrArg (·.get? name) how.modules).trans bound

theorem declarations_stay {key : String} {id : Id} (state : State) (later : List Step)
    (bound : state.catalog.declarations.get? key = some id) :
    (state.run later).catalog.declarations.get? key = some id := by
  refine State.run_preserves (fun state => state.catalog.declarations.get? key = some id)
    (fun state step bound => ?_) state later bound
  cases Moment.change ⟨state, step⟩ with
  | opens told unaccepted how => exact (congrArg (·.get? key) how.declarations_eq).trans bound
  | joins unopened told named how => exact how.arrives.keeps bound
  | quiet unopened unaccepted how => exact (congrArg (·.get? key) how.declarations).trans bound

/-- An item that is there and has no key. -/
def State.Keyless (state : State) (id : Id) : Prop :=
  id < state.store.next ∧ ∀ key, state.catalog.declarations.get? key ≠ some id

theorem keyless_stays {id : Id} (state : State) (later : List Step) (keyless : state.Keyless id) :
    (state.run later).Keyless id := by
  refine State.run_preserves (State.Keyless · id) (fun state step keyless => ?_) state later keyless
  obtain ⟨older, free⟩ := keyless
  cases Moment.change ⟨state, step⟩ with
  | opens told unaccepted how =>
    refine ⟨Nat.lt_of_lt_of_le older how.arrives.grown, fun key => ?_⟩
    exact fun bound => free key ((congrArg (·.get? key) how.declarations_eq).symm.trans bound)
  | joins unopened told named how =>
    exact ⟨Nat.lt_of_lt_of_le older how.arrives.grown, how.arrives.avoids older free⟩
  | quiet unopened unaccepted how =>
    refine ⟨Nat.lt_of_lt_of_le older how.grown, fun key => ?_⟩
    exact fun bound => free key ((congrArg (·.get? key) how.declarations).symm.trans bound)

theorem Moment.after_of_anonymous {moment : Moment} {id : Id} (told : moment.anonymous? = some id) :
    id = moment.before.store.next ∧ ∃ content,
      moment.after = { moment.before with store := moment.before.store.add content } := by
  obtain ⟨before, step⟩ := moment
  unfold anonymous? at told
  split at told
  next current raw context step =>
    dsimp only at step
    subst step
    cases read : shapesOf raw with
    | error fault =>
      simp only [State.ask, perform, declare, read] at told
      cases told
    | ok shapes =>
      simp only [State.ask, perform, declare, read] at told
      cases told
      refine ⟨rfl, .ofShapes raw shapes, ?_⟩
      simp only [Moment.after, State.after, State.ask, perform, declare, read]
      rfl
  · cases told

/-- A single item is a new one, and its request leaves the declaration registry alone. -/
theorem Moment.unregistered_new {moment : Moment} {id : Id}
    (told : moment.unregistered? = some id) :
    id = moment.before.store.next ∧ moment.before.store.next < moment.after.store.next ∧
      moment.after.catalog.declarations = moment.before.catalog.declarations := by
  rcases Option.or_eq_some_iff.mp told with anonymous | ⟨_, overloaded⟩
  · obtain ⟨next, content, after⟩ := after_of_anonymous anonymous
    rw [after]
    exact ⟨next, moment.before.store.next_lt_add content, rfl⟩
  · obtain ⟨overload, here, rfl⟩ := Option.map_eq_some_iff.mp overloaded
    cases moment.placing with
    | places there how =>
      cases here.symm.trans there
      exact ⟨how.next, how.grown, how.declarations_eq⟩
    | aside untold how => cases untold.symm.trans here

/-- An item made for no registry did not exist before, and no key is ever bound to it. -/
theorem unregistered_stays (session : Option Session) (store : Store) {steps : List Step}
    {moment : Moment} {id : Id} (member : moment ∈ (State.fresh session store).moments steps)
    (told : moment.unregistered? = some id) :
    moment.before.store.get? id = none ∧ (moment.after.store.get? id).isSome = true ∧
      ∀ key, ((State.fresh session store).run steps).catalog.declarations.get? key ≠ some id := by
  obtain ⟨past, future, split, reached⟩ := State.mem_moments member
  obtain ⟨next, grown, declarations⟩ := Moment.unregistered_new told
  have registers := declarations_hold session store past
  rw [← reached] at registers
  -- No key can be bound to the item yet, since all bound items are older.
  have keyless : moment.after.Keyless id := by
    refine ⟨by rwa [next], fun key => ?_⟩
    rw [declarations, next]
    exact registers.ne_next key
  have final : (State.fresh session store).run steps = moment.after.run future := by
    rw [split, State.run_append, State.run_cons, ← reached]
    rfl
  refine ⟨?_, ?_, ?_⟩
  · rw [next, Store.get?_next]
  · rw [Option.isSome_iff_ne_none, ne_eq, Store.get?_eq_none_iff]
    exact Nat.not_le_of_lt keyless.1
  · rw [final]
    exact (keyless_stays moment.after future keyless).2

/-! ### One request, one table -/

/-- A request changes no table but the one that it is about. -/
theorem own_table (catalog : Catalog) (store : Store) (current : Option Session)
    (request : Request Id) :
    let after := (catalog.perform store current request).catalog
    after.session = catalog.session ∧
    (after.modules = catalog.modules ∨ ∃ name, request = .openModule name) ∧
    (after.declarations = catalog.declarations ∨
      ∃ raw name context, request = .declare raw (some name) context) ∧
    (after.overloads = catalog.overloads ∨
      ∃ raw name context, request = .overload raw name context) := by
  have effect := catalog.perform_effect store current request
  dsimp only
  generalize catalog.perform store current request = outcome at effect
  cases effect with
  | newModule => exact ⟨rfl, .inr ⟨_, rfl⟩, .inl rfl, .inl rfl⟩
  | registered => exact ⟨rfl, .inl rfl, .inr ⟨_, _, _, rfl⟩, .inl rfl⟩
  | homeless => exact ⟨rfl, .inl rfl, .inl rfl, .inr ⟨_, _, _, rfl⟩⟩
  | unreadOverload => exact ⟨rfl, .inl rfl, .inl rfl, .inr ⟨_, _, _, rfl⟩⟩
  | overloaded => exact ⟨rfl, .inl rfl, .inl rfl, .inr ⟨_, _, _, rfl⟩⟩
  | _ => exact ⟨rfl, .inl rfl, .inl rfl, .inl rfl⟩

/-- A module that is asked for is opened, whether its name is known or not. -/
theorem opened_of_asked (before : State) (current : Option Session) (name : String) :
    ∃ item, Moment.opened? ⟨before, .request current (.openModule name)⟩ = some { name, item } := by
  have effect := openModule_effect before.catalog before.store current name
  generalize comes : before.catalog.openModule before.store name = outcome at effect
  have asked : before.ask current (.openModule name) = outcome := comes
  simp only [Moment.opened?, asked]
  cases effect with
  | made plain => cases plain
  | @knownModule _ id known => exact ⟨id, rfl⟩
  | newModule unknown => exact ⟨before.store.next, rfl⟩

/-! ### Main result -/

/-- What is said about identities after the run `steps` from `start`. -/
structure KeepsIdentities (start : State) (steps : List Step) : Prop where
  -- A name is bound to a module of that name, and no item has two names or keys.
  modules_named : ∀ name id, (start.run steps).catalog.modules.get? name = some id →
    (start.run steps).store.content id = .ofModule name
  modules_apart : ∀ name other id, (start.run steps).catalog.modules.get? name = some id →
    (start.run steps).catalog.modules.get? other = some id → name = other
  declarations_apart : ∀ key other id,
    (start.run steps).catalog.declarations.get? key = some id →
    (start.run steps).catalog.declarations.get? other = some id → key = other
  -- What is bound stays bound to the same item, whatever happens later.
  modules_stay : ∀ later name id, (start.run steps).catalog.modules.get? name = some id →
    (start.run (steps ++ later)).catalog.modules.get? name = some id
  declarations_stay : ∀ later key id, (start.run steps).catalog.declarations.get? key = some id →
    (start.run (steps ++ later)).catalog.declarations.get? key = some id
  -- Bound are the names and keys that were asked for with success, and each to the item it got.
  modules_contain : ∀ name, (start.run steps).catalog.modules.contains name = true ↔
    name ∈ (start.opened steps).map Opened.name
  declarations_contain : ∀ key, (start.run steps).catalog.declarations.contains key = true ↔
    key ∈ (start.accepted steps).map Accepted.key
  modules_get : ∀ opened ∈ start.opened steps,
    (start.run steps).catalog.modules.get? opened.name = some opened.item
  declarations_get : ∀ accepted ∈ start.accepted steps,
    (start.run steps).catalog.declarations.get? accepted.key = some accepted.item
  -- Every request for a module is among those that were opened.
  modules_answered : ∀ moment ∈ start.moments steps, ∀ current name,
    moment.step = .request current (.openModule name) →
    ∃ opened ∈ start.opened steps, moment.opened? = some opened ∧ opened.name = name
  sizes : (start.run steps).catalog.sizes =
    (((start.opened steps).map Opened.name).toFinset.card,
      ((start.accepted steps).map Accepted.key).toFinset.card)
  -- Two requests got one item exactly if they asked for one name.
  same_module : ∀ left ∈ start.opened steps, ∀ right ∈ start.opened steps,
    left.item = right.item ↔ left.name = right.name
  same_declaration : ∀ left ∈ start.accepted steps, ∀ right ∈ start.accepted steps,
    left.item = right.item ↔ left.key = right.key
  -- A declaration without a name and an overload are new items, and no key is bound to them.
  unregistered : ∀ moment ∈ start.moments steps, ∀ id, moment.unregistered? = some id →
    moment.before.store.get? id = none ∧ (moment.after.store.get? id).isSome = true ∧
      ∀ key, (start.run steps).catalog.declarations.get? key ≠ some id
  -- The next request changes no table but the one that it is about.
  one_table : ∀ current request,
    let after := ((start.run steps).ask current request).catalog
    after.session = (start.run steps).catalog.session ∧
    (after.modules = (start.run steps).catalog.modules ∨ ∃ name, request = .openModule name) ∧
    (after.declarations = (start.run steps).catalog.declarations ∨
      ∃ raw name context, request = .declare raw (some name) context) ∧
    (after.overloads = (start.run steps).catalog.overloads ∨
      ∃ raw name context, request = .overload raw name context)

theorem identities_kept (session : Option Session) (store : Store) (steps : List Step) :
    KeepsIdentities (State.fresh session store) steps := by
  have modules := modules_hold session store steps
  have registers := declarations_hold session store steps
  have names : ((State.fresh session store).opened steps).map Opened.name =
      (((State.fresh session store).opened steps).map Opened.entry).map Prod.fst := by
    rw [List.map_map]
    rfl
  have keys : ((State.fresh session store).accepted steps).map Accepted.key =
      (((State.fresh session store).accepted steps).map Accepted.entry).map Prod.fst := by
    rw [List.map_map]
    rfl
  exact {
    modules_named := modules.named
    modules_apart := modules.registers.apart
    declarations_apart := registers.apart
    modules_stay := fun later name id bound => by
      rw [State.run_append]
      exact modules_stay _ later bound
    declarations_stay := fun later key id bound => by
      rw [State.run_append]
      exact declarations_stay _ later bound
    modules_contain := fun name => by rw [names, modules.registers.contains_iff]
    declarations_contain := fun key => by rw [keys, registers.contains_iff]
    modules_get := fun opened member =>
      modules.registers.found opened.entry (List.mem_map_of_mem member)
    declarations_get := fun accepted member =>
      registers.found accepted.entry (List.mem_map_of_mem member)
    modules_answered := fun moment member current name is => by
      obtain ⟨before, step⟩ := moment
      subst is
      obtain ⟨item, told⟩ := opened_of_asked before current name
      exact ⟨{ name, item }, List.mem_filterMap.mpr ⟨_, member, told⟩, told, rfl⟩
    sizes := by rw [names, keys, ← modules.registers.size_eq, ← registers.size_eq]; rfl
    same_module := fun left isLeft right isRight =>
      modules.registers.item_eq_iff (List.mem_map_of_mem isLeft) (List.mem_map_of_mem isRight)
    same_declaration := fun left isLeft right isRight =>
      registers.item_eq_iff (List.mem_map_of_mem isLeft) (List.mem_map_of_mem isRight)
    unregistered := fun moment member id told => unregistered_stays session store member told
    one_table := fun current request => own_table _ _ current request }

end DeclMerge.Catalog
