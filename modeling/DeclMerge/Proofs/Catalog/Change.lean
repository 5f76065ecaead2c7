import DeclMerge.Proofs.Catalog.Run
import DeclMerge.Proofs.Output.Frame
import DeclMerge.Proofs.Table.Arrivals

/-!
# What a moment changes

A moment opens a module, joins a declaration to its key, or leaves both registries alone. That is
`Moment.change`, for which all steps and all ways of a request are looked through once. The laws of
the registries only tell these three apart.
-/
namespace DeclMerge.Catalog

/-- A module that is known keeps its item; another gets a new one, which bears its name. -/
inductive Opened.Opens (opened : Opened) (before : State) : State → Prop where
  | known (found : before.catalog.modules.get? opened.name = some opened.item) :
      Opens opened before before
  | new (unknown : before.catalog.modules.get? opened.name = none)
      (next : opened.item = before.store.next) :
      Opens opened before
        { catalog := { before.catalog with
            modules := before.catalog.modules.set opened.name opened.item }
          store := before.store.add (.ofModule opened.name) }

/-- The item of the key takes the shapes of the statement, or a new item starts with them. -/
inductive Accepted.Joins (accepted : Accepted) (before : State) : State → Prop where
  | merged {shapes : List Shape} (read : shapesOf accepted.naming.raw = .ok shapes)
      (found : before.catalog.declarations.get? accepted.key = some accepted.item) :
      Joins accepted before { before with store := before.store.absorb accepted.item shapes }
  | registered {shapes : List Shape} (read : shapesOf accepted.naming.raw = .ok shapes)
      (unknown : before.catalog.declarations.get? accepted.key = none)
      (next : accepted.item = before.store.next) :
      Joins accepted before
        { catalog := { before.catalog with
            declarations := before.catalog.declarations.set accepted.key accepted.item }
          store := before.store.add (.ofShapes accepted.naming.raw shapes) }

namespace Moment

/-- Both registries stay, and so do the contents of the items that are there, except of one that
a caller gives shapes. -/
structure Quiet (moment : Moment) : Prop where
  modules : moment.after.catalog.modules = moment.before.catalog.modules
  declarations : moment.after.catalog.declarations = moment.before.catalog.declarations
  grown : moment.before.store.next ≤ moment.after.store.next
  contents : ∀ id < moment.before.store.next,
    moment.after.store.content id = moment.before.store.content id ∨
    ∃ shapes, moment.step = .absorb id shapes ∧
      moment.after.store.content id = (moment.before.store.content id).absorb shapes

inductive Change (moment : Moment) : Prop where
  | opens {opened : Opened} (told : moment.opened? = some opened)
      (unaccepted : moment.accepted? = none) (how : opened.Opens moment.before moment.after)
  | joins {accepted : Accepted} (unopened : moment.opened? = none)
      (told : moment.accepted? = some accepted) (named : accepted.naming.key = .ok accepted.key)
      (how : accepted.Joins moment.before moment.after)
  | quiet (unopened : moment.opened? = none) (unaccepted : moment.accepted? = none)
      (how : moment.Quiet)

variable {before : State} {step : Step} {catalog : Catalog}

private theorem quiet_same (after : before.after step = ⟨catalog, before.store⟩)
    (modules : catalog.modules = before.catalog.modules)
    (declarations : catalog.declarations = before.catalog.declarations) :
    Quiet ⟨before, step⟩ where
  modules := by rw [Moment.after, after, modules]
  declarations := by rw [Moment.after, after, declarations]
  grown := by rw [Moment.after, after]
  contents id _ := .inl (by rw [Moment.after, after])

private theorem quiet_add {content : Content}
    (after : before.after step = ⟨catalog, before.store.add content⟩)
    (modules : catalog.modules = before.catalog.modules)
    (declarations : catalog.declarations = before.catalog.declarations) :
    Quiet ⟨before, step⟩ where
  modules := by rw [Moment.after, after, modules]
  declarations := by rw [Moment.after, after, declarations]
  grown := by
    rw [Moment.after, after]
    exact Nat.le_of_lt (before.store.next_lt_add content)
  contents id older := by
    left
    rw [Moment.after, after, before.store.content_add_of_ne content (Nat.ne_of_lt older)]

private theorem quiet_attach {content : Content} {parent : Id} {key : String} {child : Option Id}
    (after : before.after step = ⟨catalog, (before.store.add content).setChild parent key child⟩)
    (modules : catalog.modules = before.catalog.modules)
    (declarations : catalog.declarations = before.catalog.declarations) :
    Quiet ⟨before, step⟩ where
  modules := by rw [Moment.after, after, modules]
  declarations := by rw [Moment.after, after, declarations]
  grown := by
    rw [Moment.after, after, Store.next_setChild]
    exact Nat.le_of_lt (before.store.next_lt_add content)
  contents id older := by
    left
    rw [Moment.after, after, Store.content_setChild,
      before.store.content_add_of_ne content (Nat.ne_of_lt older)]

private theorem request_change (before : State) (current : Option Session)
    (request : Request Id) : Change ⟨before, .request current request⟩ := by
  have effect := before.catalog.perform_effect before.store current request
  generalize comes : before.catalog.perform before.store current request = outcome at effect
  have after : before.after (.request current request) = ⟨outcome.catalog, outcome.store⟩ := by
    rw [← comes]
    rfl
  -- Each way fixes the kind of request, and with it what the moment tells.
  cases effect with
  | made plain =>
    unfold Request.plain? at plain
    split at plain
    case h_5 => cases plain
    all_goals exact .quiet rfl rfl (quiet_add after rfl rfl)
  | knownModule known =>
    refine .opens (by simp only [opened?, State.ask, comes]; rfl) rfl ?_
    rw [Moment.after, after]
    exact .known known
  | newModule unknown =>
    refine .opens (by simp only [opened?, State.ask, comes]; rfl) rfl ?_
    rw [Moment.after, after]
    exact .new unknown rfl
  | anonymous read => exact .quiet rfl rfl (quiet_add after rfl rfl)
  | unreadAnonymous unread => exact .quiet rfl rfl (quiet_same after rfl rfl)
  | unnamed unnamed =>
    exact .quiet rfl (by simp only [accepted?, unnamed]) (quiet_same after rfl rfl)
  | unread named unread =>
    exact .quiet rfl (by simp only [accepted?, State.ask, named, comes]) (quiet_same after rfl rfl)
  | merged named read known =>
    refine .joins rfl (by simp only [accepted?, State.ask, named, comes]; rfl) named ?_
    rw [Moment.after, after]
    exact .merged read known
  | registered named read unknown =>
    refine .joins rfl (by simp only [accepted?, State.ask, named, comes]; rfl) named ?_
    rw [Moment.after, after]
    exact .registered read unknown rfl
  | homeless => exact .quiet rfl rfl (quiet_same after rfl rfl)
  | unreadOverload unread => exact .quiet rfl rfl (quiet_same after rfl rfl)
  | overloaded read => exact .quiet rfl rfl (quiet_attach after rfl rfl)

theorem change (moment : Moment) : moment.Change := by
  obtain ⟨before, step⟩ := moment
  cases step with
  | request current request => exact request_change before current request
  | make content bare => exact .quiet rfl rfl (quiet_add rfl rfl rfl)
  | construct raw =>
    cases read : shapesOf raw with
    | error fault => exact .quiet rfl rfl (quiet_same (by simp only [State.after, read]) rfl rfl)
    | ok shapes => exact .quiet rfl rfl (quiet_add (by simp only [State.after, read]; rfl) rfl rfl)
  | attach parent key child =>
    refine .quiet rfl rfl ⟨rfl, rfl, ?_, fun id _ => .inl ?_⟩
    · exact Nat.le_of_eq (before.store.next_setChild parent key child).symm
    · exact before.store.content_setChild parent key child id
  | absorb item shapes =>
    -- The one way in which a caller changes a content.
    refine .quiet rfl rfl ⟨rfl, rfl, ?_, fun id _ => ?_⟩
    · exact Nat.le_of_eq (before.store.next_absorb item shapes).symm
    · have absorbed := before.store.content_absorb item id shapes
      by_cases same : item = id
      · subst same
        rw [if_pos rfl] at absorbed
        exact .inr ⟨shapes, rfl, absorbed⟩
      · rw [if_neg same] at absorbed
        exact .inl absorbed

theorem joins_of_accepted {moment : Moment} {accepted : Accepted}
    (told : moment.accepted? = some accepted) :
    accepted.naming.key = .ok accepted.key ∧ accepted.Joins moment.before moment.after := by
  cases moment.change with
  | opens here unaccepted how => cases unaccepted.symm.trans told
  | joins unopened here named how =>
    cases here.symm.trans told
    exact ⟨named, how⟩
  | quiet unopened unaccepted how => cases unaccepted.symm.trans told

end Moment

/-! ### The registries, as tables at which keys arrive -/

variable {before after : State}

theorem Opened.Opens.arrives {opened : Opened} (how : opened.Opens before after) :
    before.catalog.modules.Arrives before.store.next after.store.next opened.name opened.item
      after.catalog.modules := by
  cases how with
  | known found => exact .known found (Nat.le_refl _)
  | new unknown next =>
    rw [next]
    exact .new unknown (before.store.next_lt_add _)

theorem Opened.Opens.declarations_eq {opened : Opened} (how : opened.Opens before after) :
    after.catalog.declarations = before.catalog.declarations := by
  cases how <;> rfl

theorem Accepted.Joins.arrives {accepted : Accepted} (how : accepted.Joins before after) :
    before.catalog.declarations.Arrives before.store.next after.store.next accepted.key
      accepted.item after.catalog.declarations := by
  cases how with
  | merged read found => exact .known found (Nat.le_of_eq (before.store.next_absorb _ _).symm)
  | registered read unknown next =>
    rw [next]
    exact .new unknown (before.store.next_lt_add _)

theorem Accepted.Joins.modules_eq {accepted : Accepted} (how : accepted.Joins before after) :
    after.catalog.modules = before.catalog.modules := by
  cases how <;> rfl

/-- A declaration that joins its key changes no item but its own. -/
theorem Accepted.Joins.get?_of_ne {accepted : Accepted} (how : accepted.Joins before after)
    {id : Id} (apart : accepted.item ≠ id) : after.store.get? id = before.store.get? id := by
  cases how with
  | merged read found => exact before.store.get?_absorb_of_ne _ apart
  | registered read unknown next =>
    rw [next] at apart
    exact before.store.get?_add_of_ne _ (Ne.symm apart)

theorem Opened.Opens.content_eq {opened : Opened} (how : opened.Opens before after) {id : Id}
    (older : id < before.store.next) : after.store.content id = before.store.content id := by
  cases how with
  | known => rfl
  | new => exact before.store.content_add_of_ne _ (Nat.ne_of_lt older)

theorem Accepted.Joins.content_absorbs {accepted : Accepted} (how : accepted.Joins before after)
    {id : Id} (older : id < before.store.next) :
    ∃ more, after.store.content id = (before.store.content id).absorb more := by
  cases how with
  | @merged shapes read found =>
    rw [Store.content_absorb]
    split
    · exact ⟨shapes, rfl⟩
    · exact ⟨[], (Content.absorb_nil _).symm⟩
  | registered =>
    rw [Store.content_add_of_ne _ _ (Nat.ne_of_lt older)]
    exact ⟨[], (Content.absorb_nil _).symm⟩

/-- All that can ever happen to the content of an item is that it takes shapes. -/
theorem Moment.content_absorbs (moment : Moment) {id : Id} (older : id < moment.before.store.next) :
    ∃ more, moment.after.store.content id = (moment.before.store.content id).absorb more := by
  cases moment.change with
  | opens told unaccepted how => exact ⟨[], by rw [how.content_eq older, Content.absorb_nil]⟩
  | joins unopened told named how => exact how.content_absorbs older
  | quiet unopened unaccepted how =>
    rcases how.contents id older with same | ⟨shapes, _, absorbed⟩
    · exact ⟨[], by rw [same, Content.absorb_nil]⟩
    · exact ⟨shapes, absorbed⟩

end DeclMerge.Catalog
