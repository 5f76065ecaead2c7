import DeclMerge.Program.Basic

/-!
# Turns

A turn is one operation under the session that is in force at its time. Whatever blocks stand
around an operation, it sees no more of them than this session: a program does the same as its
turns, which are its operations with the blocks taken away (`Program.run_turns`). `World.told`
tells what is reported of every turn.

Nothing that is reported depends on the questions that were put to sessions before: worlds that
agree in everything else go through the same turns alike (`Agrees.told_eq`).
-/
namespace DeclMerge

structure Turn (n : Nat) where
  -- In force while the operation is carried out.
  current : Option Session
  operation : Operation n
  -- The label under which an item that is answered is kept.
  keep : Option Label := none

/-- The catalog that an operation is addressed to. -/
def Operation.catalog? {n : Nat} : Operation n → Option (Fin n)
  | .request place _ | .count place _ | .hasModule place _ | .lookup place _ => some place
  | _ => none

/-- The operations with which neither sessions nor the tables of catalogs have to do. -/
def Operation.IsAside {n : Nat} : Operation n → Prop
  | .resolve .. | .request .. | .current => False
  | _ => True

namespace World

variable {n : Nat}

/-- Such an operation changes the store at most and makes no notes. It does not look at the session
in force, nor at the questions that were asked before. -/
theorem perform_aside (world : World n) (operation : Operation n) (aside : operation.IsAside) :
    (world.perform operation).2.notes = [] ∧
      ∀ calls current, { world with calls, current }.perform operation =
        ({ world with store := (world.perform operation).1.store, calls, current },
          (world.perform operation).2) := by
  cases operation with
  | resolve | request | current => exact absurd aside id
  | createDeclaration raw =>
    simp only [perform]
    split <;> exact ⟨rfl, fun _ _ => rfl⟩
  | setChild context key child =>
    have find calls current : { world with calls, current }.find = world.find := rfl
    have required calls current : { world with calls, current }.required .setChild context =
      world.required .setChild context := rfl
    simp only [perform, World.setChild, find, required]
    split <;> exact ⟨rfl, fun _ _ => rfl⟩
  | absorb context drafts =>
    have declaration calls current : { world with calls, current }.declaration context =
      world.declaration context := rfl
    simp only [perform, World.absorb, declaration]
    split <;> exact ⟨rfl, fun _ _ => rfl⟩
  | _ => exact ⟨rfl, fun _ _ => rfl⟩

/-- The world as the body of a block finds it. -/
def under (world : World n) (session : Option Session) : World n :=
  { world with current := session }

def report (world : World n) (turn : Turn n) : Report :=
  ((world.under turn.current).perform turn.operation).2

def after (world : World n) (turn : Turn n) : World n :=
  let changed := ((world.under turn.current).perform turn.operation).1
  (changed.keep turn.keep (world.report turn).result).under world.current

def run (world : World n) (turns : List (Turn n)) : World n := turns.foldl after world

@[simp] theorem run_nil (world : World n) : world.run [] = world := rfl

@[simp] theorem run_cons (world : World n) (turn : Turn n) (turns : List (Turn n)) :
    world.run (turn :: turns) = (world.after turn).run turns := rfl

/-- The turns of a run, each with what is reported of it. -/
def told (world : World n) : List (Turn n) → List (Turn n × Report)
  | [] => []
  | turn :: rest => (turn, world.report turn) :: (world.after turn).told rest

theorem run_append (world : World n) (first second : List (Turn n)) :
    world.run (first ++ second) = (world.run first).run second := List.foldl_append

theorem told_append (world : World n) (first second : List (Turn n)) :
    world.told (first ++ second) = world.told first ++ (world.run first).told second := by
  induction first generalizing world with
  | nil => rfl
  | cons turn rest ih => rw [List.cons_append, told, ih, run_cons, told, List.cons_append]

/-- In any case an operation leaves alone the labels, the session in force, and the catalogs that
it does not address. -/
theorem perform_elsewhere (world : World n) (operation : Operation n) :
    (world.perform operation).1.labels = world.labels ∧
      (world.perform operation).1.current = world.current ∧
      ∀ other, (∀ place ∈ operation.catalog?, other ≠ place) →
        (world.perform operation).1.catalog other = world.catalog other := by
  have aside := world.perform_aside operation
  cases operation with
  | resolve name scope raw session => cases scope <;> exact ⟨rfl, rfl, fun _ _ => rfl⟩
  | current => exact ⟨rfl, rfl, fun _ _ => rfl⟩
  | request place request =>
    unfold World.perform World.request
    dsimp only
    split
    · exact ⟨rfl, rfl, fun _ _ => rfl⟩
    · refine ⟨rfl, rfl, fun other elsewhere => ?_⟩
      have apart : place.val ≠ other.val := fun same => elsewhere place rfl (Fin.ext same.symm)
      exact Vector.getElem_set_ne place.isLt other.isLt apart
  | _ =>
    rw [(aside trivial).2 world.calls world.current]
    exact ⟨rfl, rfl, fun _ _ => rfl⟩

/-- A request whose context is found is carried out by its catalog. -/
theorem request_of_resolved (world : World n) (place : Fin n) {request : Request Label}
    {asked : Request Id} (found : request.resolve world.find = .ok asked) :
    let outcome := (world.catalog place).perform world.store world.current asked
    (world.request place request).1.catalog place = outcome.catalog ∧
      (world.request place request).1.store = outcome.store ∧
      (world.request place request).2.result = outcome.result.map (asked.reply outcome.store) ∧
      (world.request place request).2.notes = outcome.notes := by
  unfold World.request
  rw [found]
  exact ⟨Vector.getElem_set_self place.isLt, rfl, rfl, rfl⟩

theorem store_keep (world : World n) (label : Option Label) (result : Except Fault Reply) :
    (world.keep label result).store = world.store := by
  unfold keep
  split <;> rfl

theorem catalog_keep (world : World n) (label : Option Label)
    (result : Except Fault Reply) : (world.keep label result).catalog = world.catalog := by
  unfold keep
  split <;> rfl

theorem labels_keep (world : World n) (label : Option Label) (result : Except Fault Reply)
    (other : Label) :
    (world.keep label result).labels.get? other = world.labels.get? other ∨
      ∃ id, result.toOption.bind Reply.item? = some id ∧
        (world.keep label result).labels.get? other = some id := by
  unfold keep
  split
  next kept id item =>
    rw [Table.get?_set]
    split
    · exact .inr ⟨id, item, rfl⟩
    · exact .inl rfl
  · exact .inl rfl

theorem current_keep (world : World n) (label : Option Label) (result : Except Fault Reply) :
    (world.keep label result).current = world.current := by
  unfold keep
  split <;> rfl

theorem store_after (world : World n) (turn : Turn n) :
    (world.after turn).store = ((world.under turn.current).perform turn.operation).1.store :=
  store_keep _ _ _

theorem catalog_after (world : World n) (turn : Turn n) :
    (world.after turn).catalog =
      ((world.under turn.current).perform turn.operation).1.catalog :=
  catalog_keep _ _ _

/-- A turn gives at most one label, to the item that is answered. -/
theorem labels_after (world : World n) (turn : Turn n) (label : Label) :
    (world.after turn).labels.get? label = world.labels.get? label ∨
      ∃ id, (world.report turn).result.toOption.bind Reply.item? = some id ∧
        (world.after turn).labels.get? label = some id := by
  have labels := ((world.under turn.current).perform_elsewhere turn.operation).1
  rcases labels_keep ((world.under turn.current).perform turn.operation).1 turn.keep
    (world.report turn).result label with same | given
  · exact .inl (same.trans (congrArg (Table.get? · label) labels))
  · exact .inr given

theorem under_of_current {world : World n} {session : Option Session}
    (current : world.current = session) : world.under session = world := by
  subst current
  rfl

/-- Under the session in force a turn is the operation, and what is answered is kept. -/
theorem after_current (world : World n) (operation : Operation n) (label : Option Label) :
    world.after { current := world.current, operation, keep := label } =
      (world.perform operation).1.keep label (world.perform operation).2.result := by
  have current : ((world.perform operation).1.keep label (world.perform operation).2.result).current
      = world.current := by
    rw [current_keep]
    exact (world.perform_elsewhere operation).2.1
  exact under_of_current current

theorem run_under (world : World n) (session : Option Session) (turns : List (Turn n)) :
    (world.under session).run turns = (world.run turns).under session := by
  induction turns generalizing world with
  | nil => rfl
  | cons turn rest ih => exact ih (world.after turn)

theorem told_under (world : World n) (session : Option Session) (turns : List (Turn n)) :
    (world.under session).told turns = world.told turns := by
  induction turns generalizing world with
  | nil => rfl
  | cons turn rest ih => exact congrArg ((turn, world.report turn) :: ·) (ih (world.after turn))

theorem current_run (world : World n) (turns : List (Turn n)) :
    (world.run turns).current = world.current := by
  have same : world.run turns = (world.run turns).under world.current :=
    world.run_under world.current turns
  rw [same]
  rfl

/-- The same world but for the questions that sessions were asked so far. -/
def Agrees (world other : World n) : Prop := ∃ calls, other = { world with calls }

namespace Agrees

variable {world other : World n}

theorem refl (world : World n) : world.Agrees world := ⟨world.calls, rfl⟩

theorem symm (agrees : world.Agrees other) : other.Agrees world := by
  obtain ⟨calls, rfl⟩ := agrees
  exact ⟨world.calls, rfl⟩

theorem trans {third : World n} (first : world.Agrees other) (second : other.Agrees third) :
    world.Agrees third := by
  obtain ⟨_, rfl⟩ := first
  obtain ⟨calls, rfl⟩ := second
  exact ⟨calls, rfl⟩

/-- No operation looks at the questions of before; some add to them. -/
theorem perform (agrees : world.Agrees other) (operation : Operation n) :
    (world.perform operation).1.Agrees (other.perform operation).1 ∧
      (world.perform operation).2 = (other.perform operation).2 := by
  obtain ⟨calls, rfl⟩ := agrees
  have aside := world.perform_aside operation
  cases operation with
  | resolve name scope raw session =>
    cases scope with
    | none => exact ⟨⟨calls, rfl⟩, rfl⟩
    | some scope => exact ⟨⟨_, rfl⟩, rfl⟩
  | current => exact ⟨⟨calls, rfl⟩, rfl⟩
  | request place request =>
    have find : { world with calls }.find = world.find := rfl
    simp only [World.perform, World.request, find]
    split
    · exact ⟨⟨calls, rfl⟩, rfl⟩
    · exact ⟨⟨_, rfl⟩, rfl⟩
  | _ =>
    rw [(aside trivial).2 calls world.current, (aside trivial).2 world.calls world.current]
    exact ⟨⟨calls, rfl⟩, rfl⟩

theorem keep (agrees : world.Agrees other) (label : Option Label) (result : Except Fault Reply) :
    (world.keep label result).Agrees (other.keep label result) := by
  obtain ⟨calls, rfl⟩ := agrees
  unfold World.keep
  split <;> exact ⟨calls, rfl⟩

theorem under (agrees : world.Agrees other) (session : Option Session) :
    (world.under session).Agrees (other.under session) := by
  obtain ⟨calls, rfl⟩ := agrees
  exact ⟨calls, rfl⟩

theorem report_eq (agrees : world.Agrees other) (turn : Turn n) :
    world.report turn = other.report turn :=
  ((agrees.under turn.current).perform turn.operation).2

theorem after (agrees : world.Agrees other) (turn : Turn n) :
    (world.after turn).Agrees (other.after turn) := by
  have changed := ((agrees.under turn.current).perform turn.operation).1
  have current : other.current = world.current := by
    obtain ⟨calls, rfl⟩ := agrees
    rfl
  rw [World.after, World.after, agrees.report_eq turn, current]
  exact (changed.keep turn.keep _).under world.current

theorem run (agrees : world.Agrees other) (turns : List (Turn n)) :
    (world.run turns).Agrees (other.run turns) := by
  induction turns generalizing world other with
  | nil => exact agrees
  | cons turn rest ih => exact ih (agrees.after turn)

theorem told_eq (agrees : world.Agrees other) (turns : List (Turn n)) :
    world.told turns = other.told turns := by
  induction turns generalizing world other with
  | nil => rfl
  | cons turn rest ih => rw [told, told, agrees.report_eq turn, ih (agrees.after turn)]

end Agrees

end World

mutual

def Answer.reports : Answer → List Report
  | .report report => [report]
  | .block _ _ body _ _ => reportsOf body

/-- What answers report of operations, inside of blocks and outside. -/
def reportsOf : List Answer → List Report
  | [] => []
  | answer :: rest => answer.reports ++ reportsOf rest

end

theorem reportsOf_append (first second : List Answer) :
    reportsOf (first ++ second) = reportsOf first ++ reportsOf second := by
  induction first with
  | nil => rfl
  | cons answer rest ih => rw [List.cons_append, reportsOf, ih, reportsOf, List.append_assoc]

namespace Program

variable {n : Nat}

/-- Whether a program comes to a throw that no guard stops. -/
def throws : Program n → Bool
  | .done => false
  | .throw => true
  | .perform _ _ rest | .guarded _ rest => rest.throws
  | .within _ body rest => body.throws || rest.throws

/-- The turns of a program that is begun under a session. -/
def turns : Program n → Option Session → List (Turn n)
  | .done, _ | .throw, _ => []
  | .perform operation keep rest, current => { current, operation, keep } :: rest.turns current
  | .within session body rest, current =>
    body.turns session ++ if body.throws then [] else rest.turns current
  | .guarded body rest, current => body.turns current ++ rest.turns current

/-- A program does what its turns do, and reports of its operations what is told of its turns. -/
theorem run_turns (program : Program n) (world : World n) :
    (program.run world).thrown = program.throws ∧
      (program.run world).world = world.run (program.turns world.current) ∧
      reportsOf (program.run world).answers =
        (world.told (program.turns world.current)).map Prod.snd := by
  induction program generalizing world with
  | done => exact ⟨rfl, rfl, rfl⟩
  | throw => exact ⟨rfl, rfl, rfl⟩
  | perform operation keep rest ih =>
    obtain ⟨thrown, ends, reports⟩ :=
      ih ((world.perform operation).1.keep keep (world.perform operation).2.result)
    rw [World.current_keep, (world.perform_elsewhere operation).2.1] at ends reports
    refine ⟨thrown, ?_, ?_⟩
    · rw [turns, World.run_cons, World.after_current]
      exact ends
    · rw [turns, World.told, World.after_current]
      exact congrArg ((world.perform operation).2 :: ·) reports
  | within session body rest inside behind =>
    obtain ⟨thrown, ends, reports⟩ := inside (world.under session)
    -- When the block is left, the session is the one of before.
    have left : ((body.run (world.under session)).world).under world.current =
        world.run (body.turns session) := by
      rw [ends, World.run_under]
      exact (world.run_under world.current _).symm
    rw [World.told_under] at reports
    unfold World.under at thrown left reports
    rw [run, turns, throws]
    dsimp only
    rw [thrown, left]
    cases body.throws with
    | true =>
      rw [if_pos rfl, if_pos rfl, List.append_nil]
      refine ⟨rfl, rfl, ?_⟩
      rw [reportsOf, reportsOf, Answer.reports, List.append_nil]
      exact reports
    | false =>
      obtain ⟨thrown', ends', reports'⟩ := behind (world.run (body.turns session))
      rw [World.current_run] at ends' reports'
      rw [if_neg Bool.false_ne_true, if_neg Bool.false_ne_true]
      refine ⟨thrown', ?_, ?_⟩
      · rw [World.run_append]
        exact ends'
      · rw [World.told_append, List.map_append, ← reports']
        exact congrArg (· ++ _) reports
  | guarded body rest inside behind =>
    obtain ⟨_, ends, reports⟩ := inside world
    obtain ⟨thrown, ends', reports'⟩ := behind (body.run world).world
    rw [ends, World.current_run] at ends' reports'
    refine ⟨thrown, ?_, ?_⟩
    · rw [turns, World.run_append, ← ends', run, ends]
    · rw [turns, World.told_append, List.map_append, ← reports, ← reports', run, reportsOf_append,
        ends]

end Program

end DeclMerge
