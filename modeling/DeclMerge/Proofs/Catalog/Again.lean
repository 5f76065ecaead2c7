import DeclMerge.Proofs.Catalog.Reordering

/-!
# Declaring the same shapes again

What an item carries it carries for good, whatever is asked later (`carries_run`). So once a
declaration was accepted under a key, another one that comes under the key at any later time is
answered with the same item, and it adds those of its shapes that are not there yet
(`outcome_of_known`); if the first one contributed them all, it adds none (`adds_nothing`).
-/
namespace DeclMerge

theorem Content.mem_absorb {content : Content} {shape : Shape} (carried : shape ∈ content.shapes)
    (more : List Shape) : shape ∈ (content.absorb more).shapes := by
  cases content with
  | declared raw shapes => exact (mem_addNovel shapes more shape).mpr (.inl carried)
  | _ => exact carried

theorem Content.mem_of_mem_absorb {content : Content} {more : List Shape} {shape : Shape}
    (carried : shape ∈ (content.absorb more).shapes) : shape ∈ content.shapes ∨ shape ∈ more := by
  cases content with
  | declared raw shapes => exact (mem_addNovel shapes more shape).mp carried
  | _ => exact .inl carried

namespace Catalog

/-- Items are made, and never taken away. -/
theorem Moment.grown (moment : Moment) :
    moment.before.store.next ≤ moment.after.store.next := by
  cases moment.change with
  | opens told unaccepted how => exact how.arrives.grown
  | joins unopened told named how => exact how.arrives.grown
  | quiet unopened unaccepted how => exact how.grown

/-- An item that is there and carries these shapes. -/
def State.Carries (state : State) (item : Id) (shapes : List Shape) : Prop :=
  item < state.store.next ∧ ∀ shape ∈ shapes, shape ∈ state.store.shapes item

theorem carries_run {item : Id} {shapes : List Shape} (state : State) (later : List Step)
    (carries : state.Carries item shapes) : (state.run later).Carries item shapes := by
  refine State.run_preserves (State.Carries · item shapes) (fun before step carries => ?_) state
    later carries
  obtain ⟨older, carried⟩ := carries
  obtain ⟨more, absorbed⟩ := Moment.content_absorbs ⟨before, step⟩ older
  refine ⟨Nat.lt_of_lt_of_le older (Moment.grown ⟨before, step⟩), fun shape member => ?_⟩
  have content : (before.after step).store.content item = _ := absorbed
  rw [Store.shapes, content]
  exact Content.mem_absorb (carried shape member) more

/-- What a key is bound to is a declaration that was made. -/
def State.BindsDeclarations (state : State) : Prop :=
  ∀ key id, state.catalog.declarations.get? key = some id →
    id < state.store.next ∧ ∃ raw shapes, state.store.content id = .declared raw shapes

theorem Moment.bindsDeclarations (moment : Moment) (binds : moment.before.BindsDeclarations) :
    moment.after.BindsDeclarations := by
  have kept {key : String} {id : Id}
      (found : moment.before.catalog.declarations.get? key = some id) :
      id < moment.after.store.next ∧ ∃ raw shapes,
        moment.after.store.content id = .declared raw shapes := by
    obtain ⟨older, raw, shapes, content⟩ := binds key id found
    obtain ⟨more, absorbed⟩ := moment.content_absorbs older
    rw [content] at absorbed
    exact ⟨Nat.lt_of_lt_of_le older moment.grown, raw, _, absorbed⟩
  intro key id found
  cases moment.change with
  | opens told unaccepted how => exact kept (how.declarations_eq ▸ found)
  | quiet unopened unaccepted how => exact kept (how.declarations ▸ found)
  | @joins accepted unopened told named how =>
    generalize moment.after = after at how found kept
    cases how with
    | merged read known => exact kept found
    | registered read unknown next =>
      rw [Table.get?_set] at found
      split at found
      · cases found
        rw [next, Store.content_add_next]
        exact ⟨moment.before.store.next_lt_add _, _, _, rfl⟩
      · exact kept found

theorem bindsDeclarations_run (session : Option Session) (store : Store) (steps : List Step) :
    ((State.fresh session store).run steps).BindsDeclarations := by
  refine State.run_preserves State.BindsDeclarations
    (fun before step => Moment.bindsDeclarations ⟨before, step⟩) _ steps ?_
  intro key id found
  cases found

/-- A declaration that was accepted has its key bound to its item, which carries its shapes. -/
theorem Accepted.Joins.carries {accepted : Accepted} {before after : State}
    (how : accepted.Joins before after) (binds : before.BindsDeclarations)
    {shapes : List Shape} (read : shapesOf accepted.naming.raw = .ok shapes) :
    after.catalog.declarations.get? accepted.key = some accepted.item ∧
      after.Carries accepted.item shapes := by
  cases how with
  | merged here found =>
    cases here.symm.trans read
    obtain ⟨older, raw, old, content⟩ := binds accepted.key accepted.item found
    refine ⟨found, ?_, fun shape member => ?_⟩
    · rw [Store.next_absorb]
      exact older
    · rw [Store.shapes, Store.content_absorb, if_pos rfl, content]
      exact (mem_addNovel old shapes shape).mpr (.inr member)
  | registered here unknown next =>
    cases here.symm.trans read
    refine ⟨Table.get?_set_self _ _ _, ?_, fun shape member => ?_⟩
    · rw [next]
      exact before.store.next_lt_add _
    · rw [next, Store.shapes, Store.content_add_next]
      exact (mem_addNovel [] shapes shape).mpr (.inr member)

/-- A declaration that is accepted is the one that was asked for, and it can be read. -/
theorem shapes_of_accepted {state : State} {declaring : Declaring} {accepted : Accepted}
    (told : Moment.accepted? ⟨state, declaring.step⟩ = some accepted) :
    accepted.naming = declaring.naming state ∧ ∃ shapes, shapesOf declaring.raw = .ok shapes := by
  rcases after_declaring state declaring with ⟨_, untold, _⟩ | ⟨other, is, reads, told', _⟩
  · cases untold.symm.trans told
  · cases told'.symm.trans told
    exact ⟨is, ((Naming.accepted?_eq_some_iff _ _).mp reads).2⟩

/-- What comes of asking for a declaration. -/
def Declaring.outcome (declaring : Declaring) (state : State) : Outcome :=
  state.ask declaring.current (.declare declaring.raw (some declaring.name) declaring.context)

/-- Under a key that is bound, a declaration is answered with the item of the key and adds to it
the shapes that it lacks. -/
theorem Declaring.outcome_of_known {declaring : Declaring} {state : State} {key : String}
    {item : Id} {shapes : List Shape} (named : (declaring.naming state).key = .ok key)
    (read : shapesOf declaring.raw = .ok shapes)
    (known : state.catalog.declarations.get? key = some item) :
    (declaring.outcome state).result = .ok item ∧
    (declaring.outcome state).catalog = state.catalog ∧
    (declaring.outcome state).store = state.store.absorb item shapes ∧
    (declaring.outcome state).notes = (declaring.naming state).result.notes ++
      [.merged key (countNovel (state.store.shapes item) shapes)
        ((state.store.absorb item shapes).shapes item).length] := by
  obtain ⟨current, raw, name, context⟩ := declaring
  have effect := state.catalog.declare_effect state.store current raw (some name) context
  have comes : Declaring.outcome ⟨current, raw, name, context⟩ state =
    state.catalog.declare state.store current raw (some name) context := rfl
  rw [comes]
  generalize state.catalog.declare state.store current raw (some name) context = outcome at effect
  cases effect with
  | made plain => cases plain
  | unnamed unnamed => cases named.symm.trans unnamed
  | unread _ unread => cases read.symm.trans unread
  | merged named' read' known' =>
    cases named.symm.trans named'
    cases read.symm.trans read'
    cases known.symm.trans known'
    exact ⟨rfl, rfl, rfl, rfl⟩
  | registered named' read' unknown =>
    cases named.symm.trans named'
    cases known.symm.trans unknown

/-- The declaration is answered with this item, nothing changes, and it is noted down that no
shape was new. -/
structure Declaring.AddsNothing (declaring : Declaring) (state : State) (key : String)
    (item : Id) : Prop where
  answered : (declaring.outcome state).result = .ok item
  unchanged : state.after declaring.step = state
  noted : (declaring.outcome state).notes = (declaring.naming state).result.notes ++
    [.merged key 0 (state.store.shapes item).length]

section

variable (session : Option Session) (store : Store) (past between : List Step)
  {first again : Declaring} {accepted : Accepted} {shapes more : List Shape}
  (told : Moment.accepted? ⟨(State.fresh session store).run past, first.step⟩ = some accepted)

include told

/-- The key of an accepted declaration stays bound to its item, which carries its shapes. -/
theorem bound_of_accepted (read : shapesOf first.raw = .ok shapes) :
    let later := (((State.fresh session store).run past).after first.step).run between
    later.catalog.declarations.get? accepted.key = some accepted.item ∧
      later.Carries accepted.item shapes := by
  intro later
  obtain ⟨naming, _⟩ := shapes_of_accepted told
  obtain ⟨known, carries⟩ := (Moment.joins_of_accepted told).2.carries
    (bindsDeclarations_run session store past) (by rw [naming]; exact read)
  exact ⟨declarations_stay _ between known, carries_run _ between carries⟩

/-- In a run that goes on behind an accepted declaration, a declaration that comes under its key
is answered with its item and merged into it; it adds nothing if all of its shapes were
contributed by the first one. -/
theorem declared_again (read : shapesOf first.raw = .ok shapes)
    (read_again : shapesOf again.raw = .ok more) :
    let later := (((State.fresh session store).run past).after first.step).run between
    (again.naming later).key = .ok accepted.key →
    (again.outcome later).result = .ok accepted.item ∧
    later.after again.step = { later with store := later.store.absorb accepted.item more } ∧
    later.Carries accepted.item shapes ∧
    ((∀ shape ∈ more, shape ∈ shapes) → again.AddsNothing later accepted.key accepted.item) := by
  intro later named
  obtain ⟨known, carries⟩ := bound_of_accepted session store past between told read
  obtain ⟨answered, catalog, merged, notes⟩ :=
    Declaring.outcome_of_known named read_again known
  have after : later.after again.step =
      { later with store := later.store.absorb accepted.item more } := by
    rw [← catalog, ← merged]
    rfl
  refine ⟨answered, after, carries, fun old => ?_⟩
  have carried : ∀ shape ∈ more, shape ∈ later.store.shapes accepted.item :=
    fun shape member => carries.2 shape (old shape member)
  have none : countNovel (later.store.shapes accepted.item) more = 0 :=
    (countNovel_eq_zero_iff _ more).mpr carried
  rw [later.store.absorb_of_subset _ carried] at after notes
  exact ⟨answered, after, by rw [notes, none]⟩

/-- What such a declaration adds are the shapes that the item lacks, in their order. -/
theorem shapes_declared_again (read : shapesOf first.raw = .ok shapes)
    (read_again : shapesOf again.raw = .ok more) :
    let later := (((State.fresh session store).run past).after first.step).run between
    (again.naming later).key = .ok accepted.key →
    (later.after again.step).store.shapes accepted.item =
      addNovel (later.store.shapes accepted.item) more := by
  intro later named
  have known := (bound_of_accepted session store past between told read).1
  have binds : later.BindsDeclarations := by
    have run : later = (State.fresh session store).run (past ++ first.step :: between) := by
      rw [State.run_append, State.run_cons]
    rw [run]
    exact bindsDeclarations_run session store _
  obtain ⟨_, _, _, content⟩ := binds _ _ known
  rw [(declared_again session store past between told read read_again named).2.1, Store.shapes,
    Store.content_absorb, if_pos rfl, Store.shapes, content]
  rfl

end

end Catalog

end DeclMerge
