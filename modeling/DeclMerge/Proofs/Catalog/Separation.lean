import DeclMerge.Proofs.Catalog.Merging
import DeclMerge.Proofs.Key

/-!
# Which declarations share an item

Declarations outside of namespaces are kept apart by their scopes and names, as long as no
separator in a name lets two of them be confused. `items_meet` says exactly which of them share an
item, after any run, and that what is declared for one item never reaches another.
-/
namespace DeclMerge

/-- These two are one declaration, or cannot be told apart. -/
def Naming.Meets (left right : Naming) : Prop :=
  left.scope.Meets left.name right.scope right.name

namespace Catalog

theorem State.named_of_accepted {start : State} {steps : List Step} {accepted : Accepted}
    (member : accepted ∈ start.accepted steps) : accepted.naming.key = .ok accepted.key := by
  obtain ⟨moment, _, told⟩ := List.mem_filterMap.mp member
  exact (Moment.joins_of_accepted told).1

theorem items_meet (session : Option Session) (store : Store) (steps : List Step) :
    let start := State.fresh session store
    (∀ left right : Naming, left.scope.SelfContained → right.scope.SelfContained →
      (left.key = right.key ↔ left.Meets right)) ∧
    (∀ left ∈ start.accepted steps, ∀ right ∈ start.accepted steps,
      left.naming.scope.SelfContained → right.naming.scope.SelfContained →
      (left.item = right.item ↔ left.naming.Meets right.naming)) ∧
    ∀ moment ∈ start.moments steps, ∀ accepted ∈ moment.accepted?, ∀ id, accepted.item ≠ id →
      moment.after.store.get? id = moment.before.store.get? id := by
  intro start
  have keys (left right : Naming) (here : left.scope.SelfContained)
      (there : right.scope.SelfContained) : left.key = right.key ↔ left.Meets right :=
    Scope.key_eq_iff here there left.name right.name left.raw right.raw left.session right.session
  refine ⟨keys, ?_, ?_⟩
  · intro left isLeft right isRight here there
    have registers := declarations_hold session store steps
    have items : left.item = right.item ↔ left.key = right.key :=
      registers.item_eq_iff (List.mem_map_of_mem isLeft) (List.mem_map_of_mem isRight)
    rw [items, ← keys _ _ here there, State.named_of_accepted isLeft,
      State.named_of_accepted isRight, Except.ok.injEq]
  · intro moment _ accepted told id apart
    exact (Moment.joins_of_accepted told).2.get?_of_ne apart

/-- The module `m`, and two declarations that are not the same: `foo` in it and `m$foo` outside. -/
def confusing : List Step := [
  .request none (.openModule "m"),
  .request none (.declare (some firstHalf) (some "foo") (some 0)),
  .request none (.declare (some secondHalf) (some "m$foo") none)]

theorem items_meet_confusing :
    let start := State.fresh none ∅
    let final := start.run confusing
    ∃ inside ∈ start.accepted confusing, ∃ outside ∈ start.accepted confusing,
      (inside.naming.scope, inside.naming.name) = (.inModule "m", "foo") ∧
      (outside.naming.scope, outside.naming.name) = (.global, "m$foo") ∧
      inside.item = outside.item ∧ final.store.shapes inside.item = bothHalves := by
  intro start final
  have all : (start.accepted confusing).map
      (fun accepted => (accepted.naming.scope, accepted.naming.name, accepted.item)) =
      [(.inModule "m", "foo", 1), (.global, "m$foo", 1)] := by decide +kernel
  obtain ⟨inside, isInside, insideIs⟩ := List.mem_map.mp (all ▸ List.mem_cons_self)
  obtain ⟨outside, isOutside, outsideIs⟩ :=
    List.mem_map.mp (all ▸ List.mem_cons_of_mem _ List.mem_cons_self)
  simp only [Prod.mk.injEq] at insideIs outsideIs
  obtain ⟨insideScope, insideName, item⟩ := insideIs
  obtain ⟨outsideScope, outsideName, _⟩ := outsideIs
  refine ⟨inside, isInside, outside, isOutside, by rw [insideScope, insideName],
    by rw [outsideScope, outsideName], ?_, ?_⟩
  · obtain ⟨_, items, _⟩ := items_meet none ∅ confusing
    refine (items inside isInside outside isOutside (by rw [insideScope]; trivial)
      (by rw [outsideScope]; trivial)).mpr ?_
    rw [Naming.Meets, insideScope, insideName, outsideScope, outsideName]
    exact .inr (.inr (.global "m" "foo"))
  · rw [item]
    decide +kernel

end Catalog

end DeclMerge
