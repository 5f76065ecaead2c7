import DeclMerge.Proofs.Catalog.Run
import DeclMerge.Proofs.Novel
import DeclMerge.Proofs.Output.Frame
import Mathlib

/-!
# The numbers of overloads

A counter is raised by every overload that is asked for under its name, in whatever context, and
before anything can fail; nothing else touches it. So it counts the requests and not the overloads
(`count_run`), and the numbers under which the overloads of one name are put into their contexts
are 1, 2 and so on, with a gap for each request that failed (`numbersFor_run`).
-/
namespace DeclMerge

namespace Store

/-- One new declaration, which stands under `key` of `parent`; all else is as it was. -/
structure Gains (before after : Store) (parent : Id) (key : String) (content : Content) :
    Prop where
  size : after.size = before.size + 1
  new : after.get? before.next = some { content }
  bound : after.get? parent = (before.get? parent).map (Item.setChild key (some before.next))
  others : ∀ id < before.next, id ≠ parent → after.get? id = before.get? id

theorem gains_setChild (store : Store) (content : Content) (key : String) {parent : Id}
    (present : parent < store.next) :
    store.Gains ((store.add content).setChild parent key (some store.next)) parent key content where
  size := by rw [setChild, size_modify, size_add]
  new := by rw [get?_setChild_of_ne _ _ _ (Nat.ne_of_lt present), get?_add, if_pos rfl]
  bound := by rw [setChild, get?_modify, if_pos rfl, get?_add_of_ne _ _ (Nat.ne_of_lt present)]
  others id older apart := by
    rw [get?_setChild_of_ne _ _ _ apart.symm, get?_add_of_ne _ _ (Nat.ne_of_lt older)]

end Store

namespace Catalog

/-- The function of which a step asks for an overload. -/
def Step.counted? : Step → Option String
  | .request _ asks => asks.counted?
  | _ => none

/-- How many overloads of a function are asked for, made or not. -/
def asked (name : String) (steps : List Step) : Nat := (steps.filterMap Step.counted?).count name

theorem asked_append (name : String) (first second : List Step) :
    asked name (first ++ second) = asked name first + asked name second := by
  rw [asked, List.filterMap_append, List.count_append, asked, asked]

theorem asked_singleton (name : String) (step : Step) :
    asked name [step] = if step.counted? = some name then 1 else 0 := by
  rw [asked, List.filterMap_cons, List.filterMap_nil]
  cases step.counted? with
  | none => rfl
  | some other => simp [List.count_singleton]

/-- A request raises the counter that it names, whatever comes of it, and no other. -/
theorem count_perform (catalog : Catalog) (store : Store) (current : Option Session)
    (request : Request Id) (name : String) :
    (catalog.perform store current request).catalog.count name =
      catalog.count name + if request.counted? = some name then 1 else 0 := by
  have effect := catalog.perform_effect store current request
  have raised (other : String) : (catalog.counted other).count name =
      catalog.count name + if some other = some name then 1 else 0 := by
    rw [count_counted]
    by_cases same : other = name <;> simp [same]
  generalize catalog.perform store current request = outcome at effect
  cases effect with
  | made plain =>
    unfold Request.plain? at plain
    split at plain
    case h_5 => cases plain
    all_goals rfl
  | homeless => exact raised _
  | unreadOverload unread => exact raised _
  | overloaded read => exact raised _
  | _ => rfl

theorem count_after (state : State) (step : Step) (name : String) :
    (state.after step).catalog.count name = state.catalog.count name + asked name [step] := by
  rw [asked_singleton]
  cases step with
  | request current request =>
    exact count_perform state.catalog state.store current request name
  | construct raw =>
    unfold State.after
    dsimp only
    split <;> rfl
  | _ => rfl

theorem count_run (state : State) (steps : List Step) (name : String) :
    (state.run steps).catalog.count name = state.catalog.count name + asked name steps := by
  induction steps generalizing state with
  | nil => rfl
  | cons step rest ih =>
    rw [State.run_cons, ih, count_after, Nat.add_assoc, ← asked_append, List.singleton_append]

/-- What comes of an overload: without a context it fails before its statement is read, and else
exactly if the statement cannot be read. If it is made, it is a new item with the shapes of this
statement alone. -/
inductive Numbered (store : Store) (raw : Option Node) (key : String) :
    Option Id → Except Fault Id → Store → Prop where
  | homeless : Numbered store raw key none (.error (.lacking none .setChild)) store
  | unread {parent : Id} {fault : Utf8.Fault} (unread : shapesOf raw = .error fault) :
      Numbered store raw key (some parent) (.error (.undecodable fault)) store
  | made {parent : Id} {shapes : List Shape} {after : Store} (read : shapesOf raw = .ok shapes)
      (gains : parent < store.next →
        store.Gains after parent key (.declared raw shapes.eraseDups)) :
      Numbered store raw key (some parent) (.ok store.next) after

theorem overload_numbered (catalog : Catalog) (store : Store) (raw : Option Node) (name : String)
    (context : Option Id) :
    let outcome := catalog.overload store raw name context
    outcome.catalog = catalog.counted name ∧
      Numbered store raw (overloadKey name (catalog.count name + 1)) context outcome.result
        outcome.store := by
  intro outcome
  have effect : Effect catalog store none _ outcome :=
    catalog.overload_effect store none raw name context
  generalize outcome = outcome at effect
  cases effect with
  | made plain => cases plain
  | homeless => exact ⟨rfl, .homeless⟩
  | unreadOverload unread => exact ⟨rfl, .unread unread⟩
  | overloaded read =>
    refine ⟨rfl, .made read fun present => ?_⟩
    rw [Content.ofShapes, addNovel_nil_eq]
    exact store.gains_setChild _ _ present

theorem overloadKey_inj {name : String} {number other : Nat} :
    overloadKey name number = overloadKey name other ↔ number = other := by
  rw [overloadKey, overloadKey, String.append_right_inj, Nat.repr_inj]

/-- The number that an overload of this function got, made or not. -/
def Moment.numberFor? (name : String) (moment : Moment) : Option Nat :=
  if moment.step.counted? = some name then some (moment.after.catalog.count name) else none

/-- The numbers that a run gave to the overloads of one function, in order. -/
def State.numbersFor (name : String) (start : State) (steps : List Step) : List Nat :=
  (start.moments steps).filterMap (Moment.numberFor? name)

theorem numbersFor_run (name : String) (session : Option Session) (store : Store)
    (steps : List Step) :
    (State.fresh session store).numbersFor name steps = List.range' 1 (asked name steps) := by
  have counted := count_run (State.fresh session store) steps name
  have unused : (State.fresh session store).catalog.count name = 0 := rfl
  rw [unused, Nat.zero_add] at counted
  rw [← counted]
  refine State.run_records (Moment.numberFor? name)
    (fun state told => told = List.range' 1 (state.catalog.count name)) _ steps rfl ?_
  intro moment _ told numbers
  have raised := count_after moment.before moment.step name
  rw [asked_singleton] at raised
  unfold Moment.numberFor? Moment.after
  split
  next counts =>
    rw [if_pos counts] at raised
    rw [numbers, raised, List.range'_1_concat, Nat.add_comm]
    rfl
  next counts =>
    rw [if_neg counts] at raised
    rw [numbers, raised]
    exact List.append_nil _

/-- After a run a counter tells how many overloads of its name were asked for. Each of them, made
or not, sets its own counter to the next number and no other; it is put under its name with this
number, so no two overloads of a name share theirs, whatever their contexts. -/
theorem overloads_numbered (session : Option Session) (store : Store) (steps : List Step) :
    let start := State.fresh session store
    (∀ name, (start.run steps).catalog.count name = asked name steps) ∧
    (∀ past current raw name context future,
      steps = past ++ .request current (.overload raw name context) :: future →
      let before := start.run past
      let number := asked name past + 1
      let outcome := before.ask current (.overload raw name context)
      outcome.catalog =
        { before.catalog with overloads := before.catalog.overloads.set name number } ∧
      Numbered before.store raw (overloadKey name number) context outcome.result outcome.store) ∧
    ∀ name, start.numbersFor name steps = List.range' 1 (asked name steps) ∧
      ((start.numbersFor name steps).map (overloadKey name)).Nodup := by
  intro start
  have total (steps : List Step) (name : String) :
      (start.run steps).catalog.count name = asked name steps := by
    have unused : start.catalog.count name = 0 := rfl
    rw [count_run, unused, Nat.zero_add]
  refine ⟨total steps, fun past current raw name context future _ => ?_, fun name => ?_⟩
  · intro before number outcome
    have numbered := overload_numbered before.catalog before.store raw name context
    rw [counted, total] at numbered
    exact numbered
  · have numbers := numbersFor_run name session store steps
    refine ⟨numbers, ?_⟩
    rw [numbers]
    exact (List.nodup_range').map fun number other same => overloadKey_inj.mp same

/-- Two overloads of one function, the first without a context, and one of another. -/
def numbering : List Step :=
  [.make .plain rfl, .request none (.overload none "f" none),
    .request none (.overload none "f" (some 0)), .request none (.overload none "g" (some 0))]

theorem overloads_numbered_numbering :
    let start := State.fresh none ∅
    let final := start.run numbering
    let before := start.run (numbering.take 2)
    let outcome := before.ask none (.overload none "f" (some 0))
    final.catalog.count "f" = 2 ∧ start.numbersFor "f" numbering = [1, 2] ∧
    Numbered before.store none "f2" (some 0) outcome.result outcome.store ∧
    (final.store.children 0).keys = ["f2", "g1"] := by
  intro start final before outcome
  obtain ⟨counted, single, numbers⟩ := overloads_numbered none ∅ numbering
  refine ⟨(counted "f").trans (by decide), (numbers "f").1.trans (by decide), ?_, by decide⟩
  exact (single (numbering.take 2) none none "f" (some 0) (numbering.drop 3) rfl).2

end Catalog

end DeclMerge
