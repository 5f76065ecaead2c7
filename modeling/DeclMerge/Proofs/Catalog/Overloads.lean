import DeclMerge.Proofs.Catalog.Placing
import DeclMerge.Proofs.Text.Numbers

/-!
# Which overloads keep their place

An overload is put into its context under its name and its number, with nothing in between. So the
place of an overload can be taken by a later one of another name: by one whose name goes on with
the digits that the number of the first begins with, or the other way round. `overload_kept_iff`
says that nothing else takes the place of an overload, over runs in which nobody but the catalog
puts children into these contexts.
-/
namespace DeclMerge.Catalog

namespace Overload

/-- One name goes on with digits that the number of the other begins with. -/
def Clashes (left right : Overload) : Prop :=
  Text.Outgrows left.name left.number right.name right.number ∨
    Text.Outgrows right.name right.number left.name left.number

theorem key_eq_iff {left right : Overload}
    (apart : left.name = right.name → left.number ≠ right.number) :
    left.key = right.key ↔ left.Clashes right := by
  rw [key, key, overloadKey, overloadKey, Text.append_repr_eq_iff]
  constructor
  · rintro (⟨name, number⟩ | clash)
    · exact absurd number (apart name)
    · exact clash
  · exact Or.inr

end Overload

/-- The overloads that were put into one place, in order. -/
def overloadsAt (context : Id) (key : String) (told : List Overload) : List Overload :=
  told.filter fun overload => overload.context = context ∧ overload.key = key

theorem overloadsAt_concat (context : Id) (key : String) (told : List Overload)
    (overload : Overload) :
    overloadsAt context key (told ++ [overload]) =
      if overload.context = context ∧ overload.key = key
      then overloadsAt context key told ++ [overload]
      else overloadsAt context key told := by
  rw [overloadsAt, overloadsAt, List.filter_append]
  split
  next here => simp [here]
  next elsewhere => simp [elsewhere]

/-- What holds of the counters and contexts after these overloads were made. -/
structure OverloadsHold (state : State) (told : List Overload) : Prop where
  older : ∀ overload ∈ told, overload.item < state.store.next
  counted : ∀ overload ∈ told, overload.number ≤ state.catalog.count overload.name
  items_apart : told.Pairwise (·.item ≠ ·.item)
  numbers_apart : told.Pairwise fun left right => left.name = right.name →
    left.number ≠ right.number
  last_stands : ∀ context key, ∀ overload ∈ (overloadsAt context key told).getLast?,
    (state.store.children context).get? key = some (some overload.item)

namespace OverloadsHold

variable {before after : State} {told : List Overload}

/-- The new overload stands last in its place, and every other place is as it was. -/
private theorem stands_after {overload : Overload}
    (present : overload.context < before.store.next) (hold : OverloadsHold before told)
    (how : overload.Places before after) (context : Id) (key : String) :
    ∀ latest ∈ (overloadsAt context key (told ++ [overload])).getLast?,
      (after.store.children context).get? key = some (some latest.item) := by
  intro latest last
  rw [how.children_eq present]
  rw [overloadsAt_concat] at last
  split at last
  next here =>
    obtain ⟨rfl, rfl⟩ := here
    rw [List.getLast?_concat] at last
    cases last
    rw [if_pos rfl, Table.get?_set_self]
  next elsewhere =>
    have stands := hold.last_stands context key latest last
    split
    next same =>
      -- In the same context it stands under another name.
      have apart : overload.key ≠ key := fun equal => elsewhere ⟨same, equal⟩
      rw [Table.get?_set_of_ne _ _ apart]
      exact stands
    · exact stands

private theorem places {overload : Overload} (present : overload.context < before.store.next)
    (hold : OverloadsHold before told) (how : overload.Places before after) :
    OverloadsHold after (told ++ [overload]) where
  older := by
    intro earlier member
    rcases List.mem_append.mp member with old | last
    · exact Nat.lt_trans (hold.older earlier old) how.grown
    · rw [List.mem_singleton.mp last, how.next]
      exact how.grown
  counted := by
    obtain ⟨content, catalog, _⟩ := how.changed
    have raised : after.catalog.count overload.name = overload.number := by
      rw [catalog, count_counted, if_pos rfl, how.numbered]
    intro earlier member
    rcases List.mem_append.mp member with old | last
    · have counted := hold.counted earlier old
      rw [catalog]
      exact Nat.le_trans counted (before.catalog.count_le_counted _ _)
    · rw [List.mem_singleton.mp last]
      exact Nat.le_of_eq raised.symm
  items_apart := by
    rw [List.pairwise_append]
    refine ⟨hold.items_apart, List.pairwise_singleton _ _, fun earlier old last isLast => ?_⟩
    have older : earlier.item < before.store.next := hold.older earlier old
    rw [List.mem_singleton.mp isLast, how.next]
    exact Nat.ne_of_lt older
  numbers_apart := by
    rw [List.pairwise_append]
    refine ⟨hold.numbers_apart, List.pairwise_singleton _ _, fun earlier old last isLast name => ?_⟩
    -- The counter of the name is at least as large as every number given to it.
    have counted := hold.counted earlier old
    have numbered := how.numbered
    rw [List.mem_singleton.mp isLast] at name ⊢
    rw [name] at counted
    omega
  last_stands := hold.stands_after present how

private theorem aside {moment : Moment} (hold : OverloadsHold moment.before told)
    (unwritten : ∀ overload ∈ told, ∀ key child, moment.step ≠ .attach overload.context key child)
    (how : moment.Aside) : OverloadsHold moment.after told := by
  refine ⟨?_, ?_, hold.items_apart, hold.numbers_apart, ?_⟩
  · exact fun overload member => Nat.lt_of_lt_of_le (hold.older overload member) how.grown
  · exact fun overload member => Nat.le_trans (hold.counted overload member) (how.counts _)
  · intro context key latest last
    -- Only the contexts of overloads matter, and nobody else writes there.
    have member : latest ∈ overloadsAt context key told := List.mem_of_getLast? last
    obtain ⟨old, here⟩ := List.mem_filter.mp member
    obtain ⟨rfl, rfl⟩ := of_decide_eq_true here
    rcases how.children latest.context with same | ⟨name, child, step⟩
    · rw [same]
      exact hold.last_stands _ _ latest last
    · exact absurd step (unwritten latest old name child)

theorem passed {moment : Moment}
    (present : ∀ overload ∈ moment.overload?, overload.context < moment.before.store.next)
    (unwritten : ∀ overload ∈ told, ∀ key child, moment.step ≠ .attach overload.context key child)
    (hold : OverloadsHold moment.before told) :
    OverloadsHold moment.after (told ++ moment.overload?.toList) := by
  cases moment.placing with
  | places here how =>
    rw [here]
    exact hold.places (present _ here) how
  | aside untold how =>
    rw [untold, Option.toList_none, List.append_nil]
    exact hold.aside unwritten how

theorem kept_iff {state : State} {earlier later : List Overload} {overload : Overload}
    (hold : OverloadsHold state (earlier ++ overload :: later)) :
    (state.store.children overload.context).get? overload.key = some (some overload.item) ↔
      ∀ next ∈ later, next.context = overload.context → ¬ overload.Clashes next := by
  have ⟨_, items, _⟩ := List.pairwise_append.mp hold.items_apart
  have ⟨_, numbers, _⟩ := List.pairwise_append.mp hold.numbers_apart
  have clash {next : Overload} (member : next ∈ later) :
      next.key = overload.key ↔ overload.Clashes next := by
    rw [eq_comm]
    exact Overload.key_eq_iff ((List.pairwise_cons.mp numbers).1 next member)
  have stands := hold.last_stands overload.context overload.key
  rw [overloadsAt, List.filter_append, List.filter_cons_of_pos (by simp), List.getLast?_append,
    List.getLast?_cons, Option.some_or] at stands
  -- The last of the later ones in this place, if there is one, took it.
  cases last : (overloadsAt overload.context overload.key later).getLast? with
  | none =>
    have alone : overloadsAt overload.context overload.key later = [] :=
      List.getLast?_eq_none_iff.mp last
    unfold overloadsAt at last alone
    rw [last, Option.getD_none] at stands
    refine iff_of_true (stands overload rfl) fun next member same clashes => ?_
    have elsewhere := List.filter_eq_nil_iff.mp alone next member
    exact elsewhere (decide_eq_true ⟨same, (clash member).mpr clashes⟩)
  | some latest =>
    obtain ⟨member, here⟩ := List.mem_filter.mp (List.mem_of_getLast? last)
    obtain ⟨same, key⟩ := of_decide_eq_true here
    unfold overloadsAt at last
    rw [last, Option.getD_some] at stands
    refine iff_of_false (fun kept => ?_) fun free => free latest member same ((clash member).mp key)
    rw [stands latest rfl, Option.some.injEq, Option.some.injEq] at kept
    exact (List.pairwise_cons.mp items).1 latest member kept.symm

end OverloadsHold

/-- Overloads are put into items that are there, and nobody else puts anything into these. -/
structure State.Undisturbed (start : State) (steps : List Step) : Prop where
  present : ∀ moment ∈ start.moments steps, ∀ overload ∈ moment.overload?,
    overload.context < moment.before.store.next
  unwritten : ∀ overload ∈ start.overloads steps, ∀ key child,
    .attach overload.context key child ∉ steps

theorem overloads_hold (session : Option Session) (store : Store) {steps : List Step}
    (undisturbed : (State.fresh session store).Undisturbed steps) :
    OverloadsHold ((State.fresh session store).run steps)
      ((State.fresh session store).overloads steps) := by
  -- What was told so far is part of what the whole run tells, so nobody writes into its contexts.
  have told_too := State.run_records Moment.overload?
    (fun state told => OverloadsHold state told ∧ ∀ overload ∈ told,
      overload ∈ (State.fresh session store).overloads steps)
    (State.fresh session store) steps ⟨?_, ?_⟩ fun moment member told hold => ?_
  · exact told_too.1
  · exact ⟨by simp, by simp, .nil, .nil, by simp [overloadsAt]⟩
  · simp
  · obtain ⟨past, future, split, _⟩ := State.mem_moments member
    refine ⟨hold.1.passed (undisturbed.present moment member) ?_, ?_⟩
    · intro overload old key child step
      apply undisturbed.unwritten overload (hold.2 overload old) key child
      rw [← step, split]
      simp
    · intro overload either
      rcases List.mem_append.mp either with old | new
      · exact hold.2 overload old
      · exact List.mem_filterMap.mpr ⟨moment, member, Option.mem_toList.mp new⟩

/-- Where no name of a function ends in a digit, every overload keeps its place. -/
theorem overloads_kept_of_no_digit (session : Option Session) (store : Store) {steps : List Step}
    (undisturbed : (State.fresh session store).Undisturbed steps)
    (plain : ∀ overload ∈ (State.fresh session store).overloads steps,
      ∀ last ∈ overload.name.toList.getLast?, last.isDigit = false) :
    ∀ overload ∈ (State.fresh session store).overloads steps,
      (((State.fresh session store).run steps).store.children overload.context).get? overload.key =
        some (some overload.item) := by
  intro overload member
  obtain ⟨earlier, later, split⟩ := List.append_of_mem member
  have hold := overloads_hold session store undisturbed
  have ends {left right : Overload} (isLeft : left ∈ (State.fresh session store).overloads steps) :
      ¬ Text.Outgrows left.name left.number right.name right.number := by
    intro outgrows
    obtain ⟨last, isLast, digit⟩ := outgrows.getLast_isDigit
    rw [plain left isLeft last isLast] at digit
    cases digit
  rw [split] at hold
  refine hold.kept_iff.mpr fun next isNext _ clashes => ?_
  have isLater : next ∈ (State.fresh session store).overloads steps := by
    rw [split]
    exact List.mem_append_right _ (List.mem_cons_of_mem _ isNext)
  rcases clashes with outgrows | outgrows
  · exact ends member outgrows
  · exact ends isLater outgrows

/-- An overload keeps its place exactly if no later one of the same context clashes with it. -/
theorem overload_kept_iff (session : Option Session) (store : Store) (steps : List Step)
    (undisturbed : (State.fresh session store).Undisturbed steps) :
    let start := State.fresh session store
    let final := start.run steps
    ∀ earlier overload later, start.overloads steps = earlier ++ overload :: later →
      ((final.store.children overload.context).get? overload.key = some (some overload.item) ↔
        ∀ next ∈ later, next.context = overload.context → ¬ overload.Clashes next) := by
  intro start final earlier overload later split
  have hold : OverloadsHold final (start.overloads steps) :=
    overloads_hold session store undisturbed
  rw [split] at hold
  exact hold.kept_iff

/-- In one context, an overload of `f1` and then eleven of `f`. -/
def crowding : List Step :=
  .make .plain Content.shapes_plain :: .request none (.overload none "f1" (some 0)) ::
    List.replicate 11 (.request none (.overload none "f" (some 0)))

theorem overload_kept_iff_crowding :
    let start := State.fresh none ∅
    let final := start.run crowding
    let first : Overload := ⟨"f1", 1, 0, 1⟩
    start.Undisturbed crowding ∧
    start.overloads crowding =
      first :: (List.range 11).map (fun place => ⟨"f", place + 1, 0, place + 2⟩) ∧
    first.key = "f11" ∧ (final.store.children 0).get? first.key ≠ some (some 1) := by
  intro start final first
  have overloads : start.overloads crowding =
      first :: (List.range 11).map (fun place => ⟨"f", place + 1, 0, place + 2⟩) := by
    decide +kernel
  have undisturbed : start.Undisturbed crowding := by
    refine ⟨by decide +kernel, fun overload _ key child => ?_⟩
    simp [crowding]
  refine ⟨undisturbed, overloads, by decide +kernel, fun kept => ?_⟩
  have free := (overload_kept_iff none ∅ crowding undisturbed [] first _ overloads).mp kept
  have last : (⟨"f", 11, 0, 12⟩ : Overload) ∈
      (List.range 11).map (fun place => (⟨"f", place + 1, 0, place + 2⟩ : Overload)) := by decide
  exact free _ last rfl (.inl ⟨"1", by decide, by decide, by decide⟩)

end DeclMerge.Catalog
