import DeclMerge.Output.Store

/-!
# What a change of the store leaves alone

A store is changed in three ways: an item is added, an item takes more shapes, an item takes a
child. Adding is seen under the new identity only. Taking shapes changes the content of that one
item and no children; taking a child changes the children of that one item and no content. None
of the things that befall declarations changes the scope that an item gives.
-/
namespace DeclMerge

theorem Content.absorb_nil (content : Content) : content.absorb [] = content := by
  cases content <;> rfl

theorem Content.absorb_of_subset (content : Content) {more : List Shape}
    (old : ∀ shape ∈ more, shape ∈ content.shapes) : content.absorb more = content := by
  cases content with
  | declared raw shapes => exact congrArg (declared raw) (addNovel_of_subset old)
  | _ => rfl

namespace Store

@[simp] theorem get?_next (store : Store) : store.get? store.next = none :=
  (store.get?_eq_none_iff store.next).mpr (Nat.le_refl _)

theorem next_add (store : Store) (content : Content) :
    (store.add content).next = store.next + 1 := store.size_add content

theorem next_lt_add (store : Store) (content : Content) :
    store.next < (store.add content).next := by
  rw [next_add]
  exact Nat.lt_succ_self store.next

@[simp] theorem next_setChild (store : Store) (parent : Id) (key : String) (child : Option Id) :
    (store.setChild parent key child).next = store.next := store.size_modify parent _

@[simp] theorem next_absorb (store : Store) (id : Id) (more : List Shape) :
    (store.absorb id more).next = store.next := store.size_modify id _

theorem get?_add_of_ne (store : Store) (content : Content) {id : Id} (apart : id ≠ store.next) :
    (store.add content).get? id = store.get? id := by
  rw [get?_add, if_neg apart]

theorem get?_setChild_of_ne (store : Store) (key : String) (child : Option Id) {parent id : Id}
    (apart : parent ≠ id) : (store.setChild parent key child).get? id = store.get? id := by
  rw [setChild, get?_modify, if_neg apart]

theorem get?_absorb_of_ne (store : Store) (more : List Shape) {id other : Id} (apart : id ≠ other) :
    (store.absorb id more).get? other = store.get? other := by
  rw [absorb, get?_modify, if_neg apart]

theorem content_add (store : Store) (content : Content) (id : Id) :
    (store.add content).content id = if id = store.next then content else store.content id := by
  rw [Store.content, get?_add]
  split <;> rfl

@[simp] theorem content_add_next (store : Store) (content : Content) :
    (store.add content).content store.next = content := by
  rw [content_add, if_pos rfl]

theorem content_add_of_ne (store : Store) (content : Content) {id : Id} (apart : id ≠ store.next) :
    (store.add content).content id = store.content id := by
  rw [content_add, if_neg apart]

@[simp] theorem content_setChild (store : Store) (parent : Id) (key : String) (child : Option Id)
    (id : Id) : (store.setChild parent key child).content id = store.content id := by
  rw [Store.content, setChild, get?_modify, Store.content]
  split
  · cases store.get? id <;> rfl
  · rfl

theorem content_absorb (store : Store) (id other : Id) (more : List Shape) :
    (store.absorb id more).content other =
      if id = other then (store.content other).absorb more else store.content other := by
  rw [Store.content, absorb, get?_modify, Store.content]
  split
  · cases store.get? other <;> rfl
  · rfl

/-- A new item has no children, and neither has one that is not there. -/
@[simp] theorem children_add (store : Store) (content : Content) (id : Id) :
    (store.add content).children id = store.children id := by
  rw [children, get?_add, children]
  split
  next new =>
    rw [new, get?_next]
    rfl
  · rfl

@[simp] theorem children_absorb (store : Store) (id other : Id) (more : List Shape) :
    (store.absorb id more).children other = store.children other := by
  rw [children, absorb, get?_modify, children]
  split
  · cases store.get? other <;> rfl
  · rfl

theorem children_setChild (store : Store) {parent : Id} (present : parent < store.next)
    (key : String) (child : Option Id) (id : Id) :
    (store.setChild parent key child).children id =
      if parent = id then (store.children id).set key child else store.children id := by
  rw [children, setChild, get?_modify, children]
  split
  next same =>
    subst same
    cases found : store.get? parent with
    | none =>
      have missing := (store.get?_eq_none_iff parent).mp found
      exact absurd present (Nat.not_lt_of_ge missing)
    | some item => rfl
  · rfl

theorem children_setChild_of_ne (store : Store) (key : String) (child : Option Id) {parent id : Id}
    (apart : parent ≠ id) : (store.setChild parent key child).children id = store.children id := by
  rw [children, get?_setChild_of_ne store key child apart, children]

/-- An item that has all these shapes takes none. -/
theorem absorb_of_subset (store : Store) (id : Id) {more : List Shape}
    (old : ∀ shape ∈ more, shape ∈ store.shapes id) : store.absorb id more = store := by
  have same (other : Id) : (store.absorb id more).get? other = store.get? other := by
    rw [absorb, get?_modify]
    split
    next here =>
      subst here
      rw [shapes, Store.content] at old
      cases found : store.get? id with
      | none => rfl
      | some item =>
        rw [found, Option.map_some, Option.getD_some] at old
        rw [Option.map_some, Item.absorb, item.content.absorb_of_subset old]
    · rfl
  exact congrArg Store.mk (Array.ext_getElem? same)

/-- A new declaration gives no scope, as if it were not there. -/
@[simp] theorem scopeAt_add_ofShapes (store : Store) (raw : Option Node) (shapes : List Shape)
    (context : Option Id) :
    (store.add (.ofShapes raw shapes)).scopeAt context = store.scopeAt context := by
  cases context with
  | none => rfl
  | some id =>
    rw [scopeAt, scopeAt, Option.bind_some, Option.bind_some, get?_add]
    split
    next new =>
      rw [new, get?_next]
      rfl
    · rfl

@[simp] theorem scopeAt_absorb (store : Store) (id : Id) (more : List Shape)
    (context : Option Id) : (store.absorb id more).scopeAt context = store.scopeAt context := by
  cases context with
  | none => rfl
  | some other =>
    rw [scopeAt, scopeAt, Option.bind_some, Option.bind_some, absorb, get?_modify]
    split
    · cases store.get? other with
      | none => rfl
      | some item =>
        -- Only a declaration changes its content, and it gives no scope before and after.
        obtain ⟨content, children⟩ := item
        cases content <;> rfl
    · rfl

end Store

end DeclMerge
