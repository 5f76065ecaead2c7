import DeclMerge.Proofs.Novel
import DeclMerge.Proofs.Program.Supply

/-!
# Shapes come once and stay

A declaration carries no shape twice, whatever a program does: it starts with the first
occurrences of what its statement contributes, and takes of what it is offered later only what it
lacks. What one offer does is told by `Takes`: the shapes of before stay in front, the new ones
come behind, and their number is answered. `shapes_come_once` puts the two together.
-/
namespace DeclMerge

/-- Nothing but a declaration carries shapes. -/
theorem Content.eq_declared_of_shapes {content : Content} {shape : Shape} {shapes : List Shape}
    (carried : content.shapes = shape :: shapes) :
    ∃ raw, content = .declared raw (shape :: shapes) := by
  cases content with
  | declared raw other => exact ⟨raw, congrArg (Content.declared raw) carried⟩
  | _ => cases carried

namespace World

variable {n : Nat}

/-- What comes of the operation that offers the declaration `id`, which carries `old`, the shapes
`more`. -/
structure Absorbs (world : World n) (offering : Operation n) (id : Id) (raw : Option Node)
    (old more : List Shape) : Prop where
  taken : ∃ new added, Takes old more new added ∧
    (world.perform offering).1.store.content id = .declared raw new ∧
    (world.perform offering).2.result = .ok (.absorbed added new) ∧
    -- The same offer again adds nothing and changes nothing.
    (world.perform offering).1.perform offering =
      ((world.perform offering).1, { result := .ok (.absorbed 0 new) })
  -- Only the shapes of this one item change, and not even these if it has all that is offered.
  store_only : (world.perform offering).1 =
    { world with store := (world.perform offering).1.store }
  others : ∀ other ≠ id,
    (world.perform offering).1.store.get? other = world.store.get? other
  children : (world.perform offering).1.store.children id = world.store.children id
  unchanged : (∀ shape ∈ more, shape ∈ old) → (world.perform offering).1 = world

/-- An offer of shapes to a declaration that is found, spelled out. -/
theorem perform_absorb {world : World n} {label : Label} {drafts : List Draft} {id : Id}
    {raw : Option Node} {old more : List Shape} (found : world.find label = .ok id)
    (content : world.store.content id = .declared raw old)
    (checked : drafts.mapM Draft.check = .ok more) :
    world.perform (.absorb (some label) drafts) =
      ({ world with store := world.store.absorb id more },
        { result := .ok (.absorbed (countNovel old more) (addNovel old more)) }) := by
  have target : world.declaration (some label) = .ok (id, old) := by
    simp only [World.declaration, required, found, bind, Except.bind, content]
    rfl
  have after : (world.store.absorb id more).shapes id = addNovel old more := by
    rw [Store.shapes, Store.content_absorb, if_pos rfl, content]
    rfl
  simp only [perform, World.absorb, target, checked, after]

theorem absorbs {world : World n} {label : Label} {drafts : List Draft} {id : Id}
    {raw : Option Node} {old more : List Shape} (found : world.find label = .ok id)
    (content : world.store.content id = .declared raw old)
    (checked : drafts.mapM Draft.check = .ok more) :
    world.Absorbs (.absorb (some label) drafts) id raw old more := by
  have performed := perform_absorb found content checked
  have grown : (world.store.absorb id more).content id = .declared raw (addNovel old more) := by
    rw [Store.content_absorb, if_pos rfl, content]
    rfl
  have known : ∀ shape ∈ more, shape ∈ addNovel old more := fun shape member =>
    (mem_addNovel old more shape).mpr (.inr member)
  -- After the offer the item is found as before, and has all that is offered.
  have again : ({ world with store := world.store.absorb id more } : World n).perform
      (.absorb (some label) drafts) =
        ({ world with store := world.store.absorb id more },
          { result := .ok (.absorbed 0 (addNovel old more)) }) := by
    have there : ({ world with store := world.store.absorb id more } : World n).find label =
      .ok id := found
    rw [perform_absorb there grown checked, addNovel_of_subset known,
      (countNovel_eq_zero_iff _ more).mpr known, Store.absorb_of_subset]
    rw [Store.shapes, grown]
    exact known
  refine ⟨⟨addNovel old more, countNovel old more, takes_addNovel old more, ?_⟩, ?_, ?_, ?_, ?_⟩
  · rw [performed]
    exact ⟨grown, rfl, again⟩
  · rw [performed]
  · intro other apart
    rw [performed]
    exact world.store.get?_absorb_of_ne more apart.symm
  · rw [performed]
    exact world.store.children_absorb id id more
  · intro old_only
    have carried : ∀ shape ∈ more, shape ∈ world.store.shapes id := by
      rw [Store.shapes, content]
      exact old_only
    rw [performed, world.store.absorb_of_subset id carried]

end World

/-- Wherever a program leads, no item carries a shape twice. And wherever a declaration is offered
shapes, it keeps what it has in front and takes the others, each once; what is answered is how many
these are. This goes for its own shapes too, also if they are read while they are offered. -/
theorem shapes_come_once {n : Nat} (program : Program n) (start : World n)
    (apart : ∀ id, (start.store.shapes id).Nodup)
    (bare : ∀ turn ∈ program.turns start.current, turn.operation.Offers fun _ => True) :
    (∀ id, ((program.run start).world.store.shapes id).Nodup) ∧
    (∀ (world : World n) (label : Label) (drafts : List Draft) (id : Id) (raw : Option Node)
      (old more : List Shape), world.find label = .ok id →
      world.store.content id = .declared raw old → drafts.mapM Draft.check = .ok more →
      world.Absorbs (.absorb (some label) drafts) id raw old more) ∧
    ∀ (own : List Shape) (steps : Nat),
      offerAll own own = (own, 0) ∧ offerOwn (own, 0) 0 steps = offerAll own own := by
  refine ⟨fun id => ?_, fun world label drafts id raw old more => World.absorbs,
    fun own steps => ?_⟩
  · have supplied := program.run_supplied (fun _ _ _ => trivial) start bare
    exact supplied.carry List.Nodup (fun _ _ _ => trivial) .nil
      (fun known more distinct _ => nodup_addNovel distinct more) apart id
  · have none : offerAll own own = (own, 0) :=
      Prod.ext (addNovel_of_subset fun _ member => member)
        ((countNovel_eq_zero_iff own own).mpr fun _ member => member)
    exact ⟨none, (offerOwn_eq (own, 0) 0 steps).trans none.symm⟩

/-- `interface A { x: a; x: a; }`. -/
def doubled : Tree where
  file := 0
  source := "interface A { x: a; x: a; }".toUTF8.toList
  rows := #[
    ⟨"interface_declaration", none, none, true, some ⟨0, 27⟩⟩,
    ⟨"interface_body", some 0, some "body", true, some ⟨12, 27⟩⟩,
    ⟨"property_signature", some 1, none, true, some ⟨14, 18⟩⟩,
    ⟨"property_identifier", some 2, some "name", true, some ⟨14, 15⟩⟩,
    ⟨"property_signature", some 1, none, true, some ⟨20, 24⟩⟩,
    ⟨"property_identifier", some 4, some "name", true, some ⟨20, 21⟩⟩]

def doubledA : Node := ⟨doubled, 0, by decide⟩

def entry (name : String) : Shape := ⟨"property_signature", some name, name ++ ": a"⟩

def offering (names : List String) : Operation 0 :=
  .absorb (some "a") (names.map fun name => .ofShape (entry name))

/-- The declaration is offered an entry twice, and then all of its own. -/
def growing : Program 0 :=
  .perform (.createDeclaration (some doubledA)) (some "a")
    (.perform (offering ["y", "x", "y"]) none
      (.perform (offering ["x", "y"]) none .done))

theorem shapes_come_once_doubled :
    let final := (growing.run { catalogs := #v[] }).world
    (final.store.shapes 0).Nodup ∧ ∃ raw, final.store.content 0 = .declared raw
        [entry "x", entry "y"] ∧
      final.Absorbs (offering ["z", "x", "z"]) 0 raw [entry "x", entry "y"]
        [entry "z", entry "x", entry "z"] := by
  intro final
  have bare : ∀ turn ∈ growing.turns none, turn.operation.Offers fun _ => True := by
    simp [growing, offering, Program.turns, Operation.Offers]
  obtain ⟨apart, grows, _⟩ := shapes_come_once growing { catalogs := #v[] } (fun _ => .nil) bare
  have found : final.find "a" = .ok 0 := by
    have kept : final.labels.get? "a" = some 0 := by decide +kernel
    rw [World.find, kept]
  obtain ⟨raw, content⟩ : ∃ raw, final.store.content 0 = .declared raw [entry "x", entry "y"] :=
    Content.eq_declared_of_shapes (by decide +kernel : final.store.shapes 0 = _)
  exact ⟨apart 0, raw, content, grows final "a" _ 0 raw _ _ found content rfl⟩

end DeclMerge
