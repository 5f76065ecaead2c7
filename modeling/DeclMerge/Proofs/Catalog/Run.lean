import DeclMerge.Proofs.Catalog.Effect
import Mathlib.Data.List.Induction

/-!
# Runs of a catalog

A run is a list of steps from a state. Besides asking the catalog, callers may make items, put
children in place and add shapes themselves; so a run covers everything that can happen to the
items while one catalog is in use. The moments of a run are its steps with the states in which
they are taken. What was asked for so far is read off them: the modules opened, the named
declarations accepted, the overloads made.
-/
namespace DeclMerge.Catalog

/-- A catalog with the store that it shares with its callers. -/
structure State where
  catalog : Catalog
  store : Store

inductive Step where
  -- The catalog is asked while `current` is the session in force.
  | request (current : Option Session) (request : Request Id)
  -- Callers make items themselves: without shapes, or with those of a statement that can be read.
  | make (content : Content) (bare : content.shapes = [])
  | construct (raw : Option Node)
  | attach (parent : Id) (key : String) (child : Option Id)
  | absorb (id : Id) (shapes : List Shape)

namespace State

-- The items of the store may be there before the catalog.
def fresh (session : Option Session) (store : Store) : State := ⟨{ session }, store⟩

def ask (state : State) (current : Option Session) (request : Request Id) : Outcome :=
  state.catalog.perform state.store current request

def after (state : State) : Step → State
  | .request current request =>
    let outcome := state.ask current request
    ⟨outcome.catalog, outcome.store⟩
  | .make content _ => { state with store := state.store.add content }
  | .construct raw =>
    match shapesOf raw with
    | .error _ => state
    | .ok shapes => { state with store := state.store.add (.ofShapes raw shapes) }
  | .attach parent key child => { state with store := state.store.setChild parent key child }
  | .absorb id shapes => { state with store := state.store.absorb id shapes }

def run (state : State) (steps : List Step) : State := steps.foldl after state

@[simp] theorem run_nil (state : State) : state.run [] = state := rfl

@[simp] theorem run_cons (state : State) (step : Step) (steps : List Step) :
    state.run (step :: steps) = (state.after step).run steps := rfl

theorem run_append (state : State) (first second : List Step) :
    state.run (first ++ second) = (state.run first).run second := List.foldl_append

theorem run_concat (state : State) (steps : List Step) (step : Step) :
    state.run (steps ++ [step]) = (state.run steps).after step := state.run_append steps [step]

theorem run_preserves (holds : State → Prop)
    (preserved : ∀ state step, holds state → holds (state.after step)) (state : State)
    (steps : List Step) (initial : holds state) : holds (state.run steps) := by
  induction steps generalizing state with
  | nil => exact initial
  | cons step rest ih => exact ih (state.after step) (preserved state step initial)

end State

/-- A step with the state in which it is taken. -/
structure Moment where
  before : State
  step : Step

def Moment.after (moment : Moment) : State := moment.before.after moment.step

namespace State

def moments (state : State) : List Step → List Moment
  | [] => []
  | step :: rest => ⟨state, step⟩ :: (state.after step).moments rest

theorem moments_append (state : State) (first second : List Step) :
    state.moments (first ++ second) = state.moments first ++ (state.run first).moments second := by
  induction first generalizing state with
  | nil => rfl
  | cons step rest ih =>
    simp only [List.cons_append, moments, ih, run_cons]

theorem moments_concat (state : State) (steps : List Step) (step : Step) :
    state.moments (steps ++ [step]) = state.moments steps ++ [⟨state.run steps, step⟩] :=
  state.moments_append steps [step]

theorem mem_moments {state : State} {steps : List Step} {moment : Moment}
    (member : moment ∈ state.moments steps) :
    ∃ past future, steps = past ++ moment.step :: future ∧ moment.before = state.run past := by
  induction steps generalizing state with
  | nil => cases member
  | cons step rest ih =>
    rcases List.mem_cons.mp member with rfl | later
    · exact ⟨[], rest, rfl, rfl⟩
    · obtain ⟨past, future, split, reached⟩ := ih later
      exact ⟨step :: past, future, by rw [split]; rfl, reached⟩

/-- What a run keeps and what it has told so far, together: they hold after a run if they hold at
first and every moment of it passes them on. -/
theorem run_records {α : Type} (record : Moment → Option α) (holds : State → List α → Prop)
    (start : State) (steps : List Step) (initial : holds start [])
    (passed : ∀ moment ∈ start.moments steps, ∀ told, holds moment.before told →
      holds moment.after (told ++ (record moment).toList)) :
    holds (start.run steps) ((start.moments steps).filterMap record) := by
  -- From the last step backwards, since the records grow at their end.
  induction steps using List.reverseRecOn with
  | nil => exact initial
  | append_singleton steps step ih =>
    rw [moments_concat] at passed ⊢
    have before := ih fun moment member => passed moment (List.mem_append_left _ member)
    have after := passed ⟨start.run steps, step⟩ (by simp) _ before
    rw [run_concat, List.filterMap_append]
    cases told : record ⟨start.run steps, step⟩ <;> simpa [told, Moment.after] using after

end State

/-- A module that was asked for, with the item it got. -/
structure Opened where
  name : String
  item : Id

/-- A named declaration that the catalog accepted, with its key and the item it got. -/
structure Accepted where
  naming : Naming
  key : String
  item : Id

/-- An overload that got an item: a child of its context under its name and number. -/
structure Overload where
  name : String
  number : Nat
  context : Id
  item : Id
  deriving DecidableEq

namespace Moment

def opened? (moment : Moment) : Option Opened :=
  match moment.step with
  | .request current (.openModule name) =>
    (moment.before.ask current (.openModule name)).result.toOption.map fun item => { name, item }
  | _ => none

def accepted? (moment : Moment) : Option Accepted :=
  match moment.step with
  | .request current (.declare raw (some name) context) =>
    let naming := moment.before.catalog.naming moment.before.store current raw name context
    match naming.key, (moment.before.ask current (.declare raw (some name) context)).result with
    | .ok key, .ok item => some { naming, key, item }
    | _, _ => none
  | _ => none

def anonymous? (moment : Moment) : Option Id :=
  match moment.step with
  | .request current (.declare raw none context) =>
    (moment.before.ask current (.declare raw none context)).result.toOption
  | _ => none

def overload? (moment : Moment) : Option Overload :=
  match moment.step with
  | .request current (.overload raw name (some context)) =>
    let outcome := moment.before.ask current (.overload raw name (some context))
    outcome.result.toOption.map fun item =>
      { name, number := outcome.catalog.count name, context, item }
  | _ => none

/-- The item that a request made for no registry: of a declaration without a name, or of an
overload. -/
def unregistered? (moment : Moment) : Option Id :=
  moment.anonymous?.or (moment.overload?.map Overload.item)

end Moment

namespace State

def opened (start : State) (steps : List Step) : List Opened :=
  (start.moments steps).filterMap Moment.opened?

def accepted (start : State) (steps : List Step) : List Accepted :=
  (start.moments steps).filterMap Moment.accepted?

def overloads (start : State) (steps : List Step) : List Overload :=
  (start.moments steps).filterMap Moment.overload?

end State

end DeclMerge.Catalog
