import DeclMerge.Proofs.Catalog.Merging
import DeclMerge.Proofs.Program.Supply

/-!
# Programs as runs of a catalog

Seen from one of its catalogs, a program is a run of this catalog: what it asks the catalog is
asked in the run, and whatever else it does to items, also through other catalogs, callers can do
themselves (`Program.reaches`). So what holds after every run of a catalog is read off every
program; `Program.modules_hold` and its like do so with the laws of the registries.
-/
namespace DeclMerge

namespace Catalog

def Moment.isRequest (moment : Moment) : Bool :=
  match moment.step with
  | .request .. => true
  | _ => false

/-- What is told of a request: the answer, and what the catalog notes. -/
def Moment.told? (moment : Moment) : Option (Except Fault Reply × List Note) :=
  match moment.step with
  | .request current request =>
    let outcome := moment.before.ask current request
    some (outcome.result.map (request.reply outcome.store), outcome.notes)
  | _ => none

/-- Callers neither open modules nor have declarations accepted. -/
theorem Moment.untold_of_unasked {moment : Moment} (unasked : moment.isRequest = false) :
    moment.opened? = none ∧ moment.accepted? = none := by
  obtain ⟨before, step⟩ := moment
  cases step with
  | request => cases unasked
  | _ => exact ⟨rfl, rfl⟩

namespace State

/-- The moments of a run in which the catalog is asked. -/
def asked (start : State) (steps : List Step) : List Moment :=
  (start.moments steps).filter Moment.isRequest

/-- A run leads from one state to another, and asks the catalog what is `asked` on the way. All
shapes that callers add to items meanwhile are `offered`. -/
def Reaches (offered : List Shape → Prop) (before : State) (asked : List Moment)
    (after : State) : Prop :=
  ∃ steps, before.run steps = after ∧ before.asked steps = asked ∧
    ∀ id shapes, .absorb id shapes ∈ steps → offered shapes

namespace Reaches

variable {offered : List Shape → Prop} {start state after : State} {told more : List Moment}

theorem refl (state : State) : state.Reaches offered [] state := ⟨[], rfl, rfl, by simp⟩

theorem trans (first : start.Reaches offered told state)
    (second : state.Reaches offered more after) : start.Reaches offered (told ++ more) after := by
  obtain ⟨steps, rfl, rfl, given⟩ := first
  obtain ⟨later, rfl, rfl, given'⟩ := second
  refine ⟨steps ++ later, start.run_append steps later, ?_, fun id shapes member => ?_⟩
  · simp only [asked, moments_append, List.filter_append]
  · rcases List.mem_append.mp member with early | late
    · exact given id shapes early
    · exact given' id shapes late

theorem request (state : State) (current : Option Session) (request : Request Id) :
    state.Reaches offered [⟨state, .request current request⟩]
      (state.after (.request current request)) :=
  ⟨[.request current request], rfl, rfl, by simp⟩

/-- What callers do asks the catalog nothing. -/
theorem quiet (state : State) (step : Step) (unasked : Moment.isRequest ⟨state, step⟩ = false)
    (given : ∀ id shapes, step = .absorb id shapes → offered shapes) :
    state.Reaches offered [] (state.after step) := by
  refine ⟨[step], rfl, by simp [asked, moments, unasked], fun id shapes member => ?_⟩
  exact given id shapes (List.mem_singleton.mp member).symm

/-- Whatever happens to the items alone, callers can do. -/
theorem of_supplied {store later : Store} (catalog : Catalog)
    (supplied : Store.Supplied offered store later) :
    Reaches offered ⟨catalog, store⟩ [] ⟨catalog, later⟩ := by
  -- Every way in which items change is a step of callers.
  induction supplied with
  | start => exact refl _
  | made _ bare ih => exact ih.trans (quiet _ (.make _ bare) rfl (by simp))
  | @declared store raw shapes _ read ih =>
    -- A statement that can be read is read by the step too.
    have constructed : State.after ⟨catalog, store⟩ (.construct raw) =
        ⟨catalog, store.add (.ofShapes raw shapes)⟩ := by
      simp only [State.after, read]
    rw [← constructed]
    exact ih.trans (quiet _ (.construct raw) rfl (by simp))
  | @absorbed store id shapes _ given ih =>
    refine ih.trans (quiet _ (.absorb id shapes) rfl ?_)
    rintro _ _ ⟨⟩
    exact given
  | attached _ ih => exact ih.trans (quiet _ (.attach _ _ _) rfl (by simp))

end Reaches

/-- What a run records of the requests alone, it records in the moments in which it is asked. -/
theorem filterMap_asked {α : Type} (record : Moment → Option α)
    (silent : ∀ moment, moment.isRequest = false → record moment = none) (start : State)
    (steps : List Step) :
    (start.asked steps).filterMap record = (start.moments steps).filterMap record := by
  rw [asked, List.filterMap_filter]
  refine List.filterMap_congr fun moment _ => ?_
  cases asks : moment.isRequest with
  | true => simp
  | false => simp [silent moment asks]

theorem opened_eq (start : State) (steps : List Step) :
    start.opened steps = (start.asked steps).filterMap Moment.opened? := by
  symm
  apply filterMap_asked
  exact fun _ unasked => (Moment.untold_of_unasked unasked).1

theorem accepted_eq (start : State) (steps : List Step) :
    start.accepted steps = (start.asked steps).filterMap Moment.accepted? := by
  symm
  apply filterMap_asked
  exact fun _ unasked => (Moment.untold_of_unasked unasked).2

end State

end Catalog

open Catalog (State Moment)

/-- What callers add to items, and what catalogs other than the one at `place` merge into them, is
`offered`. -/
def Operation.OffersBeside {n : Nat} (place : Fin n) (offered : List Shape → Prop)
    (operation : Operation n) : Prop :=
  operation.Offers offered ∧ ∀ other request, operation = .request other request → other ≠ place →
    ∀ raw shapes, shapesOf raw = .ok shapes → offered shapes

theorem Operation.offersBeside_of_bare {n : Nat} {operation : Operation n}
    (bare : operation.Offers fun _ => True) (place : Fin n) :
    operation.OffersBeside place fun _ => True :=
  ⟨bare, fun _ _ _ _ _ _ _ => trivial⟩

namespace World

variable {n : Nat}

/-- The catalog at a place, with the items that all catalogs share. -/
def stateAt (world : World n) (place : Fin n) : State := ⟨world.catalog place, world.store⟩

/-- What an operation asks the catalog at a place, in the state that it finds. If its context is not
found, it asks nothing. -/
def asked? (world : World n) (place : Fin n) : Operation n → Option Moment
  | .request other request =>
    if other = place then
      match request.resolve world.find with
      | .ok asked => some ⟨world.stateAt place, .request world.current asked⟩
      | .error _ => none
    else none
  | _ => none

/-- What the turns of a run ask the catalog at a place, in order. -/
def asked (place : Fin n) (world : World n) : List (Turn n) → List Moment
  | [] => []
  | turn :: rest =>
    ((world.under turn.current).asked? place turn.operation).toList ++
      (world.after turn).asked place rest

theorem told_of_asked {world : World n} {place : Fin n} {operation : Operation n}
    {moment : Moment} (asks : world.asked? place operation = some moment) :
    moment.told? =
      some ((world.perform operation).2.result, (world.perform operation).2.notes) := by
  unfold asked? at asks
  split at asks
  next other request =>
    split at asks
    next own =>
      subst own
      split at asks
      next asked found =>
        cases asks
        obtain ⟨_, _, result, notes⟩ := world.request_of_resolved other found
        rw [perform, result, notes]
        rfl
      · cases asks
    · cases asks
  · cases asks

/-- What the catalog answers and notes is reported, in this order among other reports. -/
theorem told_sublist (world : World n) (place : Fin n) (turns : List (Turn n)) :
    ((world.asked place turns).filterMap Moment.told?).Sublist
      ((world.told turns).map fun told => (told.2.result, told.2.notes)) := by
  induction turns generalizing world with
  | nil => exact .slnil
  | cons turn rest ih =>
    have further := ih (world.after turn)
    rw [asked, told, List.map_cons, List.filterMap_append]
    cases asks : (world.under turn.current).asked? place turn.operation with
    | none => exact further.cons _
    | some moment =>
      rw [Option.toList_some, List.filterMap_cons, told_of_asked asks]
      exact further.cons_cons _

variable {offered : List Shape → Prop}

/-- An operation that leaves a catalog as it is, and asks it nothing, is something that callers can
do. -/
theorem reaches_aside {world after : World n} {place : Fin n}
    (kept : after.catalog place = world.catalog place)
    (supplied : Store.Supplied offered world.store after.store) :
    (world.stateAt place).Reaches offered [] (after.stateAt place) := by
  rw [stateAt, stateAt, kept]
  exact .of_supplied (world.catalog place) supplied

/-- One operation is a request to the catalog, or something that callers can do. -/
theorem perform_reaches (world : World n) (place : Fin n) {operation : Operation n}
    (offers : operation.OffersBeside place offered) :
    (world.stateAt place).Reaches offered (world.asked? place operation).toList
      ((world.perform operation).1.stateAt place) := by
  obtain ⟨given, beside⟩ := offers
  have elsewhere := (world.perform_elsewhere operation).2.2
  cases operation with
  | request other request =>
    by_cases own : other = place
    · subst own
      rw [asked?, if_pos rfl, perform]
      cases found : request.resolve world.find with
      | error fault =>
        rw [World.request, found]
        exact .refl (world.stateAt other)
      | ok asked =>
        obtain ⟨catalog, store, _⟩ := world.request_of_resolved other found
        rw [stateAt, stateAt, catalog, store]
        exact .request (world.stateAt other) world.current asked
    -- For this catalog, another one that is asked is a caller like all others.
    · rw [asked?, if_neg own]
      refine reaches_aside (elsewhere place ?_) (world.perform_supplied given ?_)
      · rintro _ ⟨⟩
        exact Ne.symm own
      · rintro _ _ ⟨⟩
        exact beside other request rfl own
  | count | hasModule | lookup => exact .refl (world.stateAt place)
  | _ =>
    refine reaches_aside (elsewhere place ?_) (world.perform_supplied given ?_)
    · rintro _ ⟨⟩
    · rintro _ _ ⟨⟩

theorem stateAt_after (world : World n) (turn : Turn n) (place : Fin n) :
    (world.after turn).stateAt place =
      ((world.under turn.current).perform turn.operation).1.stateAt place := by
  rw [stateAt, stateAt, catalog_after, store_after]

theorem run_reaches (world : World n) (place : Fin n) {turns : List (Turn n)}
    (offers : ∀ turn ∈ turns, turn.operation.OffersBeside place offered) :
    (world.stateAt place).Reaches offered (world.asked place turns)
      ((world.run turns).stateAt place) := by
  -- The runs of the single turns, one behind the other.
  induction turns generalizing world with
  | nil => exact .refl (world.stateAt place)
  | cons turn rest ih =>
    obtain ⟨here, further⟩ := List.forall_mem_cons.mp offers
    have step := (world.under turn.current).perform_reaches place here
    rw [← stateAt_after] at step
    exact step.trans (ih (world.after turn) further)

end World

namespace Program

variable {n : Nat} {offered : List Shape → Prop}

/-- What a program asks the catalog at a place, in order. -/
def asks (program : Program n) (world : World n) (place : Fin n) : List Moment :=
  world.asked place (program.turns world.current)

/-- Seen from one of its catalogs, a program is a run of this catalog. -/
theorem reaches (program : Program n) (world : World n) (place : Fin n)
    (offers : ∀ turn ∈ program.turns world.current, turn.operation.OffersBeside place offered) :
    (world.stateAt place).Reaches offered (program.asks world place)
      ((program.run world).world.stateAt place) := by
  rw [(program.run_turns world).2.1]
  exact world.run_reaches place offers

/-- A program reports what its catalogs answer and note. -/
theorem told_sublist (program : Program n) (world : World n) (place : Fin n) :
    ((program.asks world place).filterMap Moment.told?).Sublist
      ((reportsOf (program.run world).answers).map fun report =>
        (report.result, report.notes)) := by
  rw [(program.run_turns world).2.2, List.map_map]
  exact world.told_sublist place (program.turns world.current)

/-- What holds after every run of a fresh catalog, of its state and of what it was asked, holds
after a program that finds the catalog fresh. -/
theorem holds_of_runs (holds : State → List Moment → Prop)
    (law : ∀ session store steps, (∀ id shapes, .absorb id shapes ∈ steps → offered shapes) →
      holds ((State.fresh session store).run steps) ((State.fresh session store).asked steps))
    (program : Program n) (world : World n) {place : Fin n} {session : Option Session}
    (fresh : world.catalog place = { session })
    (offers : ∀ turn ∈ program.turns world.current, turn.operation.OffersBeside place offered) :
    holds ((program.run world).world.stateAt place) (program.asks world place) := by
  obtain ⟨steps, ends, asked, given⟩ := program.reaches world place offers
  have start : world.stateAt place = State.fresh session world.store := by
    rw [World.stateAt, fresh, State.fresh]
  rw [start] at ends asked
  rw [← ends, ← asked]
  exact law session world.store steps given

section Fresh

variable (program : Program n) (world : World n) {place : Fin n} {session : Option Session}
  (fresh : world.catalog place = { session })

include fresh

/-- After a program every module that was asked for has an item of its own. -/
theorem modules_hold
    (bare : ∀ turn ∈ program.turns world.current, turn.operation.Offers fun _ => True) :
    Catalog.ModulesHold ((program.run world).world.stateAt place)
      ((program.asks world place).filterMap Moment.opened?) := by
  refine program.holds_of_runs (fun state told =>
    Catalog.ModulesHold state (told.filterMap Moment.opened?)) ?_ world fresh
    fun turn member => Operation.offersBeside_of_bare (bare turn member) place
  intro session store steps _
  rw [← State.opened_eq]
  exact Catalog.modules_hold session store steps

/-- After a program every key under which a declaration was accepted has an item of its own. -/
theorem declarations_hold
    (bare : ∀ turn ∈ program.turns world.current, turn.operation.Offers fun _ => True) :
    Catalog.DeclarationsHold ((program.run world).world.stateAt place)
      ((program.asks world place).filterMap Moment.accepted?) := by
  refine program.holds_of_runs (fun state told =>
    Catalog.DeclarationsHold state (told.filterMap Moment.accepted?)) ?_ world fresh
    fun turn member => Operation.offersBeside_of_bare (bare turn member) place
  intro session store steps _
  rw [← State.accepted_eq]
  exact Catalog.declarations_hold session store steps

/-- If nobody else adds shapes to items, then after a program the item of a key is the merge of the
statements that were accepted under it. -/
theorem shapes_hold
    (alone : ∀ turn ∈ program.turns world.current,
      turn.operation.OffersBeside place fun _ => False) :
    Catalog.ShapesHold ((program.run world).world.stateAt place)
      ((program.asks world place).filterMap Moment.accepted?) := by
  refine program.holds_of_runs (fun state told =>
    Catalog.ShapesHold state (told.filterMap Moment.accepted?)) ?_ world fresh alone
  intro session store steps untouched
  rw [← State.accepted_eq]
  exact Catalog.shapes_hold session store steps untouched

end Fresh

end Program

end DeclMerge
