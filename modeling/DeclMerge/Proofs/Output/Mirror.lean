import DeclMerge.Proofs.Output.Frame
import DeclMerge.Proofs.Table.Alike

/-!
# A store inside another one

A store mirrors a part of another store if its items stand there under other identities, in the
order of a list `items`. Changing an item and the one that it stands for alike keeps the mirror,
and a new item on both sides prolongs the list (`Follows`). What happens to the rest of the larger
store, and what is added to it, the mirror does not show (`Mirrors.of_spares`).
-/
namespace DeclMerge

/-- In the order of `items`, the identity `own` comes at the place of `shared`. -/
def Stands (items : List Id) (own shared : Id) : Prop := items[own]? = some shared

theorem Stands.append {items : List Id} {own shared : Id} (stands : Stands items own shared)
    (more : List Id) : Stands (items ++ more) own shared := by
  obtain ⟨here, _⟩ := List.getElem?_eq_some_iff.mp stands
  rw [Stands, List.getElem?_append_left here]
  exact stands

theorem Stands.mem {items : List Id} {own shared : Id} (stands : Stands items own shared) :
    shared ∈ items := List.mem_of_getElem? stands

/-- Both at no item, or at one and at the one that it stands for. -/
theorem Stands.append_rel {items : List Id} {own shared : Option Id}
    (stand : Option.Rel (Stands items) own shared) (more : List Id) :
    Option.Rel (Stands (items ++ more)) own shared := by
  cases stand with
  | none => exact .none
  | some here => exact .some (here.append more)

structure Item.Alike (items : List Id) (own shared : Item) : Prop where
  content : own.content = shared.content
  children : own.children.Alike (Option.Rel (Stands items)) shared.children

theorem Item.Alike.append {items : List Id} {own shared : Item} (alike : own.Alike items shared)
    (more : List Id) : own.Alike (items ++ more) shared where
  content := alike.content
  children := alike.children.mono fun _ _ stand => Stands.append_rel stand more

namespace Store

structure Mirrors (items : List Id) (own shared : Store) : Prop where
  size : items.length = own.size
  apart : items.Nodup
  older : ∀ id ∈ items, id < shared.next
  alike : ∀ id other, Stands items id other →
    Option.Rel (Item.Alike items) (own.get? id) (shared.get? other)

/-- The items that were added on the way from one store to a later one. -/
def since (before after : Store) : List Id := List.range' before.size (after.size - before.size)

/-- Whatever happened on the way, of the older items only some of `items` are concerned. -/
structure Spares (items : List Id) (before after : Store) : Prop where
  grown : before.next ≤ after.next
  others : ∀ id < before.next, id ∉ items → after.get? id = before.get? id

/-- The larger store went the way of the smaller one, and no other item is concerned. -/
structure Follows (items : List Id) (own shared own' shared' : Store) : Prop where
  mirrors : own'.Mirrors (items ++ shared.since shared') shared'
  spares : shared.Spares items shared'

variable {items : List Id} {own shared own' shared' own'' shared'' : Store}

namespace Mirrors

variable {id other : Id}

theorem content_eq (mirrors : own.Mirrors items shared) (stands : Stands items id other) :
    own.content id = shared.content other := by
  have alike := mirrors.alike id other stands
  rw [Store.content, Store.content]
  generalize own.get? id = left, shared.get? other = right at alike
  cases alike with
  | none => rfl
  | some here => exact here.content

theorem shapes_eq (mirrors : own.Mirrors items shared) (stands : Stands items id other) :
    own.shapes id = shared.shapes other := by
  rw [shapes, shapes, mirrors.content_eq stands]

theorem children_alike (mirrors : own.Mirrors items shared) (stands : Stands items id other) :
    (own.children id).Alike (Option.Rel (Stands items)) (shared.children other) := by
  have alike := mirrors.alike id other stands
  rw [children, children]
  generalize own.get? id = left, shared.get? other = right at alike
  cases alike with
  | none => exact .empty
  | some here => exact here.children

theorem scopeAt_eq {context context' : Option Id} (mirrors : own.Mirrors items shared)
    (contexts : Option.Rel (Stands items) context context') :
    own.scopeAt context = shared.scopeAt context' := by
  cases contexts with
  | none => rfl
  | some stands =>
    have alike := mirrors.alike _ _ stands
    rw [scopeAt, scopeAt, Option.bind_some, Option.bind_some]
    generalize own.get? _ = left, shared.get? _ = right at alike
    cases alike with
    | none => rfl
    | some here =>
      rw [Option.map_some, Option.map_some, Item.scope, Item.scope, here.content]

/-- Two identities of the smaller store never stand for one item. -/
theorem eq_of_stands {id id' other : Id} (mirrors : own.Mirrors items shared)
    (here : Stands items id other) (there : Stands items id' other) : id = id' := by
  obtain ⟨inside, _⟩ := List.getElem?_eq_some_iff.mp here
  exact (List.getElem?_inj inside mirrors.apart).mp (Eq.trans here there.symm)

/-- The next item stands for the next one on the other side. -/
theorem stands_next (mirrors : own.Mirrors items shared) :
    Stands (items ++ [shared.next]) own.next shared.next := by
  have place : own.next = items.length := mirrors.size.symm
  rw [Stands, place, List.getElem?_concat_length]

theorem of_spares {others : List Id} (mirrors : own.Mirrors items shared)
    (spares : shared.Spares others shared') (disjoint : items.Disjoint others) :
    own.Mirrors items shared' where
  size := mirrors.size
  apart := mirrors.apart
  older id member := Nat.lt_of_lt_of_le (mirrors.older id member) spares.grown
  alike id other stands := by
    rw [spares.others other (mirrors.older other stands.mem) (disjoint stands.mem)]
    exact mirrors.alike id other stands

theorem add (mirrors : own.Mirrors items shared) (content : Content) :
    (own.add content).Mirrors (items ++ [shared.next]) (shared.add content) where
  size := by rw [List.length_append, List.length_singleton, size_add, mirrors.size]
  apart := by
    rw [List.nodup_append]
    refine ⟨mirrors.apart, by simp, ?_⟩
    intro id member last isLast
    rw [List.mem_singleton.mp isLast]
    exact Nat.ne_of_lt (mirrors.older id member)
  older id member := by
    have grown := shared.next_lt_add content
    rcases List.mem_append.mp member with old | last
    · exact Nat.lt_trans (mirrors.older id old) grown
    · rw [List.mem_singleton.mp last]
      exact grown
  alike id other stands := by
    rw [get?_add, get?_add]
    by_cases old : id < items.length
    · have before : Stands items id other := by
        rwa [Stands, List.getElem?_append_left old] at stands
      have older : id < own.next := Nat.lt_of_lt_of_eq old mirrors.size
      rw [if_neg (Nat.ne_of_lt older), if_neg (Nat.ne_of_lt (mirrors.older other before.mem))]
      have alike := mirrors.alike id other before
      generalize own.get? id = left, shared.get? other = right at alike
      cases alike with
      | none => exact .none
      | some here => exact .some (here.append _)
    · -- There is one place behind the old ones, on both sides that of the new item.
      rw [Stands, List.getElem?_append_right (Nat.le_of_not_lt old),
        List.getElem?_singleton] at stands
      split at stands
      next last =>
        have new : id = own.next := by
          rw [next, ← mirrors.size]
          exact Nat.le_antisymm (Nat.sub_eq_zero_iff_le.mp last) (Nat.le_of_not_lt old)
        rw [if_pos new, if_pos (Option.some.inj stands).symm]
        exact .some ⟨rfl, .empty⟩
      · cases stands

theorem modify {change change' : Item → Item} (mirrors : own.Mirrors items shared)
    (stands : Stands items id other)
    (kept : ∀ left right, left.Alike items right → (change left).Alike items (change' right)) :
    (own.modify id change).Mirrors items (shared.modify other change') where
  size := by rw [size_modify, mirrors.size]
  apart := mirrors.apart
  older id member := by
    rw [next, size_modify]
    exact mirrors.older id member
  alike id' other' stands' := by
    have alike := mirrors.alike id' other' stands'
    rw [get?_modify, get?_modify]
    by_cases same : id = id'
    · subst same
      rw [if_pos rfl, if_pos (Option.some.inj (stands.symm.trans stands'))]
      generalize own.get? id = left, shared.get? other' = right at alike
      cases alike with
      | none => exact .none
      | some here => exact .some (kept _ _ here)
    · have differ : other ≠ other' := by
        rintro rfl
        exact same (mirrors.eq_of_stands stands stands')
      rw [if_neg same, if_neg differ]
      exact alike

end Mirrors

theorem Spares.refl (items : List Id) (store : Store) : store.Spares items store where
  grown := Nat.le_refl _
  others _ _ _ := rfl

@[simp] theorem since_self (store : Store) : store.since store = [] := by
  rw [since, Nat.sub_self]
  rfl

@[simp] theorem since_add (store : Store) (content : Content) :
    store.since (store.add content) = [store.next] := by
  rw [since, size_add, Nat.add_sub_cancel_left]
  rfl

@[simp] theorem since_modify (before after : Store) (id : Id) (change : Item → Item) :
    before.since (after.modify id change) = before.since after := by
  rw [since, size_modify, since]

theorem next_le_of_mem_since {before after : Store} {id : Id} (added : id ∈ before.since after) :
    before.next ≤ id := (List.mem_range'_1.mp added).1

theorem since_append {before between after : Store} (first : before.size ≤ between.size)
    (second : between.size ≤ after.size) :
    before.since between ++ between.since after = before.since after := by
  have split : after.size - before.size =
      (between.size - before.size) + (after.size - between.size) := by omega
  have start : before.size + (between.size - before.size) = between.size := by omega
  rw [since, since, since, split, ← List.range'_append_1, start]

namespace Follows

theorem refl (mirrors : own.Mirrors items shared) : Follows items own shared own shared where
  mirrors := by
    rw [since_self, List.append_nil]
    exact mirrors
  spares := .refl items shared

theorem trans (first : Follows items own shared own' shared')
    (second : Follows (items ++ shared.since shared') own' shared' own'' shared'') :
    Follows items own shared own'' shared'' where
  mirrors := by
    rw [← since_append first.spares.grown second.spares.grown, ← List.append_assoc]
    exact second.mirrors
  spares := by
    refine ⟨Nat.le_trans first.spares.grown second.spares.grown, fun id older foreign => ?_⟩
    have later : id < shared'.next := Nat.lt_of_lt_of_le older first.spares.grown
    rw [second.spares.others id later, first.spares.others id older foreign]
    intro member
    rcases List.mem_append.mp member with old | added
    · exact foreign old
    · exact Nat.not_lt_of_ge (next_le_of_mem_since added) older

theorem add (mirrors : own.Mirrors items shared) (content : Content) :
    Follows items own shared (own.add content) (shared.add content) where
  mirrors := by
    rw [since_add]
    exact mirrors.add content
  spares :=
    ⟨Nat.le_of_lt (shared.next_lt_add content),
      fun _ older _ => shared.get?_add_of_ne content (Nat.ne_of_lt older)⟩

variable {id other : Id}

private theorem modify {change change' : Item → Item} (mirrors : own.Mirrors items shared)
    (stands : Stands items id other)
    (kept : ∀ left right, left.Alike items right → (change left).Alike items (change' right)) :
    Follows items own shared (own.modify id change) (shared.modify other change') where
  mirrors := by
    rw [since_modify, since_self, List.append_nil]
    exact mirrors.modify stands kept
  spares := by
    refine ⟨Nat.le_of_eq (shared.size_modify other change').symm, fun id _ foreign => ?_⟩
    rw [get?_modify, if_neg]
    rintro rfl
    exact foreign stands.mem

theorem setChild {child child' : Option Id} (mirrors : own.Mirrors items shared)
    (stands : Stands items id other) (key : String)
    (children : Option.Rel (Stands items) child child') :
    Follows items own shared (own.setChild id key child) (shared.setChild other key child') :=
  modify mirrors stands fun _ _ alike => ⟨alike.content, alike.children.set key children⟩

/-- On both sides an item is added as a child of an older one. -/
theorem addChild (mirrors : own.Mirrors items shared) (stands : Stands items id other)
    (content : Content) (key : String) :
    Follows items own shared ((own.add content).setChild id key (some own.next))
      ((shared.add content).setChild other key (some shared.next)) := by
  refine (add mirrors content).trans ?_
  rw [since_add]
  exact setChild (mirrors.add content) (stands.append _) key (.some mirrors.stands_next)

theorem absorb (mirrors : own.Mirrors items shared) (stands : Stands items id other)
    (more : List Shape) :
    Follows items own shared (own.absorb id more) (shared.absorb other more) :=
  modify mirrors stands fun _ _ alike =>
    ⟨congrArg (Content.absorb · more) alike.content, alike.children⟩

end Follows

end Store

end DeclMerge
