import DeclMerge.Proofs.Catalog.Run
import DeclMerge.Proofs.Output.Frame

/-!
# How items get into their places

Of all steps only two write children: an overload puts a new item into its context, under its name
with the next number, and a caller may attach whatever it likes. `Moment.placing` tells the first
from everything else.
-/
namespace DeclMerge.Catalog

namespace Overload

/-- The name under which it stands in its context. -/
def key (overload : Overload) : String := overloadKey overload.name overload.number

/-- A new item is put into the context, under the next number of its name. -/
structure Places (overload : Overload) (before after : State) : Prop where
  next : overload.item = before.store.next
  numbered : overload.number = before.catalog.count overload.name + 1
  changed : ∃ content,
    after.catalog = before.catalog.counted overload.name ∧
    after.store = (before.store.add content).setChild overload.context overload.key
      (some overload.item)

variable {overload : Overload} {before after : State}

theorem Places.grown (how : overload.Places before after) :
    before.store.next < after.store.next := by
  obtain ⟨content, _, store⟩ := how.changed
  rw [store, Store.next_setChild]
  exact before.store.next_lt_add content

theorem Places.declarations_eq (how : overload.Places before after) :
    after.catalog.declarations = before.catalog.declarations := by
  obtain ⟨content, catalog, _⟩ := how.changed
  rw [catalog]
  rfl

theorem Places.children_eq (present : overload.context < before.store.next)
    (how : overload.Places before after) (id : Id) :
    after.store.children id =
      if overload.context = id
      then (before.store.children id).set overload.key (some overload.item)
      else before.store.children id := by
  obtain ⟨content, _, store⟩ := how.changed
  have grown := before.store.next_lt_add content
  rw [store, Store.children_setChild _ (Nat.lt_trans present grown), Store.children_add]

end Overload

namespace Moment

/-- No overload is put in place. Counters may grow; children only change where a caller says. -/
structure Aside (moment : Moment) : Prop where
  grown : moment.before.store.next ≤ moment.after.store.next
  counts : ∀ name, moment.before.catalog.count name ≤ moment.after.catalog.count name
  children : ∀ id, moment.after.store.children id = moment.before.store.children id ∨
    ∃ key child, moment.step = .attach id key child

inductive Placing (moment : Moment) : Prop where
  | places {overload : Overload} (told : moment.overload? = some overload)
      (how : overload.Places moment.before moment.after)
  | aside (untold : moment.overload? = none) (how : moment.Aside)

private theorem aside_of {before : State} {step : Step} {catalog : Catalog} {store : Store}
    (after : before.after step = ⟨catalog, store⟩) (grown : before.store.next ≤ store.next)
    (counts : ∀ name, before.catalog.count name ≤ catalog.count name)
    (children : ∀ id, store.children id = before.store.children id) : Aside ⟨before, step⟩ where
  grown := by rwa [Moment.after, after]
  counts := by rwa [Moment.after, after]
  children id := by
    left
    rw [Moment.after, after]
    exact children id

private theorem aside_same {before : State} {step : Step} {catalog : Catalog}
    (after : before.after step = ⟨catalog, before.store⟩)
    (counts : ∀ name, before.catalog.count name ≤ catalog.count name) : Aside ⟨before, step⟩ :=
  aside_of after (Nat.le_refl _) counts fun _ => rfl

private theorem aside_add {before : State} {step : Step} {catalog : Catalog} {content : Content}
    (after : before.after step = ⟨catalog, before.store.add content⟩)
    (overloads : catalog.overloads = before.catalog.overloads) : Aside ⟨before, step⟩ := by
  have same (name : String) : before.catalog.count name = catalog.count name := by
    rw [count, count, overloads]
  have grown := before.store.next_lt_add content
  apply aside_of after (Nat.le_of_lt grown)
  · intro name
    exact Nat.le_of_eq (same name)
  · exact before.store.children_add content

private theorem aside_absorb {before : State} {step : Step} {item : Id} {shapes : List Shape}
    (after : before.after step = ⟨before.catalog, before.store.absorb item shapes⟩) :
    Aside ⟨before, step⟩ := by
  have grown := before.store.next_absorb item shapes
  apply aside_of after (Nat.le_of_eq grown.symm)
  · intro name
    exact Nat.le_refl _
  · intro id
    exact before.store.children_absorb item id shapes

private theorem request_placing (before : State) (current : Option Session)
    (request : Request Id) : Placing ⟨before, .request current request⟩ := by
  have effect := before.catalog.perform_effect before.store current request
  generalize comes : before.catalog.perform before.store current request = outcome at effect
  have after : before.after (.request current request) = ⟨outcome.catalog, outcome.store⟩ := by
    rw [← comes]
    rfl
  have counts (name : String) : before.catalog.count name ≤ before.catalog.count name :=
    Nat.le_refl _
  cases effect with
  | made plain =>
    -- The kind of request shows that no overload is told.
    unfold Request.plain? at plain
    split at plain
    case h_5 => cases plain
    all_goals exact .aside rfl (aside_add after rfl)
  | knownModule known => exact .aside rfl (aside_same after counts)
  | newModule unknown => exact .aside rfl (aside_add after rfl)
  | anonymous read => exact .aside rfl (aside_add after rfl)
  | unreadAnonymous unread => exact .aside rfl (aside_same after counts)
  | unnamed unnamed => exact .aside rfl (aside_same after counts)
  | unread named unread => exact .aside rfl (aside_same after counts)
  | merged named read known => exact .aside rfl (aside_absorb after)
  | registered named read unknown => exact .aside rfl (aside_add after rfl)
  | homeless => exact .aside rfl (aside_same after (before.catalog.count_le_counted _))
  | unreadOverload unread =>
    refine .aside (by simp only [overload?, State.ask, comes]; rfl) ?_
    exact aside_same after (before.catalog.count_le_counted _)
  | @overloaded raw name parent shapes read =>
    have number : (before.catalog.counted name).count name = before.catalog.count name + 1 := by
      rw [count_counted, if_pos rfl]
    have told : overload? ⟨before, .request current (.overload raw name (some parent))⟩ =
        some ⟨name, before.catalog.count name + 1, parent, before.store.next⟩ := by
      simp only [overload?, State.ask, comes, number]
      rfl
    refine .places told ⟨rfl, rfl, .ofShapes raw shapes, ?_, ?_⟩
    · rw [Moment.after, after]
    · rw [Moment.after, after]
      rfl

theorem placing (moment : Moment) : moment.Placing := by
  obtain ⟨before, step⟩ := moment
  cases step with
  | request current request => exact request_placing before current request
  | make content bare => exact .aside rfl (aside_add rfl rfl)
  | construct raw =>
    cases read : shapesOf raw with
    | error fault =>
      have after : before.after (.construct raw) = before := by simp only [State.after, read]
      exact .aside rfl (aside_same after fun _ => Nat.le_refl _)
    | ok shapes =>
      have after : before.after (.construct raw) =
          ⟨before.catalog, before.store.add (.ofShapes raw shapes)⟩ := by
        simp only [State.after, read]
      exact .aside rfl (aside_add after rfl)
  | attach parent key child =>
    have grown := before.store.next_setChild parent key child
    refine .aside rfl ⟨Nat.le_of_eq grown.symm, fun _ => Nat.le_refl _, fun id => ?_⟩
    by_cases same : parent = id
    · subst same
      exact .inr ⟨key, child, rfl⟩
    · exact .inl (before.store.children_setChild_of_ne key child same)
  | absorb item shapes => exact .aside rfl (aside_absorb rfl)

end Moment

end DeclMerge.Catalog
