import DeclMerge.Proofs.Catalog.Effect
import DeclMerge.Proofs.Output.Frame
import DeclMerge.Proofs.Program.Turns

/-!
# Where the shapes of items come from

Whatever a program does, its items get their shapes in two ways only: a declaration is made from
the shapes of a statement, and it is offered more, those of another statement or those that a
caller brings along. `Store.Supplied` says that a store came about like this; it holds after every
operation (`World.perform_supplied`), so also after every run. A law of the shapes that an item
carries is therefore proved once, of a list that takes what it lacks (`Store.Supplied.carry`).
-/
namespace DeclMerge

/-- The store came from `start` while items were made and put in place; what was added to the shapes
of an item at a time is `offered`. -/
inductive Store.Supplied (offered : List Shape → Prop) (start : Store) : Store → Prop where
  | start : Supplied offered start start
  | made {store : Store} {content : Content} (before : Supplied offered start store)
      (bare : content.shapes = []) : Supplied offered start (store.add content)
  | declared {store : Store} {raw : Option Node} {shapes : List Shape}
      (before : Supplied offered start store) (read : shapesOf raw = .ok shapes) :
      Supplied offered start (store.add (.ofShapes raw shapes))
  | absorbed {store : Store} {id : Id} {shapes : List Shape}
      (before : Supplied offered start store) (given : offered shapes) :
      Supplied offered start (store.absorb id shapes)
  | attached {store : Store} {parent : Id} {key : String} {child : Option Id}
      (before : Supplied offered start store) :
      Supplied offered start (store.setChild parent key child)

theorem Content.shapes_absorb (content : Content) (more : List Shape) :
    (content.absorb more).shapes = addNovel content.shapes more ∨
      (content.absorb more).shapes = content.shapes := by
  cases content with
  | declared raw shapes => exact .inl rfl
  | _ => exact .inr rfl

namespace Store.Supplied

variable {offered : List Shape → Prop} {start store later : Store}

theorem trans (first : Supplied offered start store) (second : Supplied offered store later) :
    Supplied offered start later := by
  induction second with
  | start => exact first
  | made _ bare ih => exact ih.made bare
  | declared _ read ih => exact ih.declared read
  | absorbed _ given ih => exact ih.absorbed given
  | attached _ ih => exact ih.attached

/-- If a statement gives what may be offered, then what holds of no shapes, and still holds when a
list takes offered shapes that it lacks, holds of the shapes of every item. -/
theorem carry (holds : List Shape → Prop) (supplied : Supplied offered start store)
    (statements : ∀ raw shapes, shapesOf raw = .ok shapes → offered shapes) (empty : holds [])
    (taken : ∀ known more, holds known → offered more → holds (addNovel known more))
    (initially : ∀ id, holds (start.shapes id)) (id : Id) : holds (store.shapes id) := by
  induction supplied with
  | start => exact initially id
  | @made store content _ bare ih =>
    rw [Store.shapes, Store.content_add]
    split
    · rw [bare]
      exact empty
    · exact ih
  | @declared store raw shapes _ read ih =>
    rw [Store.shapes, Store.content_add]
    split
    · exact taken [] shapes empty (statements raw shapes read)
    · exact ih
  | @absorbed store item shapes _ given ih =>
    rw [Store.shapes, Store.content_absorb]
    split
    · rcases (store.content id).shapes_absorb shapes with grown | same
      · rw [grown]
        exact taken _ shapes ih given
      · rw [same]
        exact ih
    · exact ih
  | @attached store parent key child _ ih =>
    rw [Store.shapes, Store.content_setChild]
    exact ih

end Store.Supplied

/-- What callers themselves give to items: shapes that are `offered` to a declaration; the items
that they make have none. -/
def Operation.Offers {n : Nat} (offered : List Shape → Prop) : Operation n → Prop
  | .create content => content.shapes = []
  | .absorb _ drafts => ∀ shapes, drafts.mapM Draft.check = .ok shapes → offered shapes
  | _ => True

variable {offered : List Shape → Prop}

/-- A request adds shapes to an item only if it merges a statement. -/
theorem Catalog.perform_supplied
    (statements : ∀ raw shapes, shapesOf raw = .ok shapes → offered shapes) (catalog : Catalog)
    (store : Store) (current : Option Session) (request : Request Id) :
    Store.Supplied offered store (catalog.perform store current request).store := by
  have effect := catalog.perform_effect store current request
  generalize catalog.perform store current request = outcome at effect
  cases effect with
  | made plain =>
    refine Store.Supplied.start.made ?_
    unfold Request.plain? at plain
    split at plain <;> cases plain <;> rfl
  | newModule => exact Store.Supplied.start.made rfl
  | anonymous read | registered _ read => exact Store.Supplied.start.declared read
  | merged _ read => exact Store.Supplied.start.absorbed (statements _ _ read)
  | overloaded read => exact (Store.Supplied.start.declared read).attached
  | _ => exact .start

namespace World

variable {n : Nat}

theorem perform_supplied (world : World n) {operation : Operation n}
    (offers : operation.Offers offered)
    (merging : ∀ place request, operation = .request place request →
      ∀ raw shapes, shapesOf raw = .ok shapes → offered shapes) :
    Store.Supplied offered world.store (world.perform operation).1.store := by
  cases operation with
  | resolve name scope raw session => cases scope <;> exact .start
  | request place request =>
    cases found : request.resolve world.find with
    | error fault =>
      simp only [perform, World.request, found]
      exact .start
    | ok asked =>
      simp only [perform, World.request, found]
      exact Catalog.perform_supplied (merging place request rfl) _ world.store world.current asked
  | create content => exact Store.Supplied.start.made offers
  | createDeclaration raw =>
    cases read : shapesOf raw with
    | error fault =>
      simp only [perform, read]
      exact .start
    | ok shapes =>
      simp only [perform, read]
      exact Store.Supplied.start.declared read
  | setChild context key child =>
    simp only [perform, World.setChild]
    split
    · exact Store.Supplied.start.attached
    · exact .start
    · exact .start
  | absorb context drafts =>
    simp only [perform, World.absorb]
    split
    · exact .start
    · exact .start
    next id before shapes _ checked => exact Store.Supplied.start.absorbed (offers shapes checked)
  | _ => exact .start

theorem run_supplied (statements : ∀ raw shapes, shapesOf raw = .ok shapes → offered shapes)
    (world : World n) {turns : List (Turn n)}
    (offers : ∀ turn ∈ turns, turn.operation.Offers offered) :
    Store.Supplied offered world.store (world.run turns).store := by
  induction turns generalizing world with
  | nil => exact .start
  | cons turn rest ih =>
    obtain ⟨here, further⟩ := List.forall_mem_cons.mp offers
    have step := (world.under turn.current).perform_supplied here fun _ _ _ => statements
    have after : Store.Supplied offered world.store (world.after turn).store := by
      rw [store_after]
      exact step
    exact after.trans (ih (world.after turn) further)

end World

theorem Program.run_supplied {n : Nat}
    (statements : ∀ raw shapes, shapesOf raw = .ok shapes → offered shapes)
    (program : Program n) (start : World n)
    (offers : ∀ turn ∈ program.turns start.current, turn.operation.Offers offered) :
    Store.Supplied offered start.store (program.run start).world.store := by
  rw [(program.run_turns start).2.1]
  exact start.run_supplied statements offers

end DeclMerge
