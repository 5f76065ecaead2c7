import DeclMerge.Proofs.Program.Exchanges

/-!
# Sessions in force

A block puts a session in force, or none, and whoever leaves it finds the session of before, also
by a throw. So wherever a program stands, the session in force is that of the innermost block
around, and after the program it is the one of before (`sessions_scoped`). It is asked by those
who have no session of their own, at the time at which they name something, and its answers make
the key; the others do the same under every session.
-/
namespace DeclMerge

/-- The session in force inside of blocks, given the sessions of the blocks, the innermost first:
what the innermost was given, be it none, or what is in force outside if there is no block. -/
def innermost (blocks : List (Option Session)) (outside : Option Session) : Option Session :=
  blocks.headD outside

/-- An operation that a program carries out: the sessions of the blocks around it, the innermost
first, and the world that it finds. -/
structure Visit (n : Nat) where
  blocks : List (Option Session)
  world : World n
  operation : Operation n

def Visit.report {n : Nat} (visit : Visit n) : Report :=
  (visit.world.perform visit.operation).2

mutual

/-- A block has in force what it was given, and puts the session of before back behind it. -/
def Answer.Restores (before : Option Nat) : Answer → Prop
  | .report _ => True
  | .block given inside body _ after => inside = given ∧ after = before ∧ AllRestore given body

def AllRestore (before : Option Nat) : List Answer → Prop
  | [] => True
  | answer :: rest => answer.Restores before ∧ AllRestore before rest

end

theorem allRestore_append {before : Option Nat} {first second : List Answer}
    (left : AllRestore before first) (right : AllRestore before second) :
    AllRestore before (first ++ second) := by
  induction first with
  | nil => exact right
  | cons answer rest ih => exact ⟨left.1, ih left.2⟩

namespace Program

variable {n : Nat}

/-- Leaving a program leaves the session in force as it was. -/
theorem current_run (program : Program n) (world : World n) :
    (program.run world).world.current = world.current := by
  rw [(program.run_turns world).2.1, World.current_run]

section Within

variable (session : Option Session) (body rest : Program n) (world : World n)

/-- The world that is found behind a block. -/
def behind : World n := (body.run (world.under session)).world.under world.current

theorem run_within_of_thrown (thrown : (body.run (world.under session)).thrown = true) :
    (within session body rest).run world = {
      world := behind session body world
      answers := [.block (session.map Session.number) (session.map Session.number)
        (body.run (world.under session)).answers true (world.current.map Session.number)]
      thrown := true } := by
  unfold World.under at thrown
  rw [run]
  dsimp only
  rw [if_pos thrown, thrown]
  rfl

theorem run_within_of_done (done : (body.run (world.under session)).thrown = false) :
    (within session body rest).run world = {
      world := (rest.run (behind session body world)).world
      answers := .block (session.map Session.number) (session.map Session.number)
        (body.run (world.under session)).answers false (world.current.map Session.number) ::
          (rest.run (behind session body world)).answers
      thrown := (rest.run (behind session body world)).thrown } := by
  unfold World.under at done
  rw [run]
  dsimp only
  rw [if_neg (by simp [done]), done]
  rfl

end Within

/-- The operations that a program carries out, in order. -/
def visits : Program n → World n → List (Option Session) → List (Visit n)
  | .done, _, _ | .throw, _, _ => []
  | .perform operation keep rest, world, blocks =>
    let (after, report) := world.perform operation
    ⟨blocks, world, operation⟩ :: rest.visits (after.keep keep report.result) blocks
  | .within session body rest, world, blocks =>
    body.visits (world.under session) (session :: blocks) ++
      if (body.run (world.under session)).thrown then []
      else rest.visits (behind session body world) blocks
  | .guarded body rest, world, blocks =>
    body.visits world blocks ++ rest.visits (body.run world).world blocks

/-- The reports of a run are those of its visits. -/
theorem reports_run (program : Program n) (world : World n) (blocks : List (Option Session)) :
    reportsOf (program.run world).answers = (program.visits world blocks).map Visit.report := by
  -- Along the program; behind a block that was thrown out of, nothing is visited.
  induction program generalizing world blocks with
  | done | throw => rfl
  | perform operation keep rest ih => exact congrArg (_ :: ·) (ih _ blocks)
  | within session body rest inside after =>
    have inner := inside (world.under session) (session :: blocks)
    rw [visits]
    cases thrown : (body.run (world.under session)).thrown with
    | true =>
      rw [run_within_of_thrown session body rest world thrown, if_pos rfl, List.append_nil]
      simpa [reportsOf, Answer.reports] using inner
    | false =>
      rw [run_within_of_done session body rest world thrown, if_neg Bool.false_ne_true,
        List.map_append, ← inner, ← after _ blocks]
      rfl
  | guarded body rest inside after =>
    rw [visits, List.map_append, ← inside world blocks, ← after _ blocks, ← reportsOf_append]
    rfl

/-- Wherever a program comes, the session of the innermost block is in force. -/
theorem inForce_visits (program : Program n) (world : World n) (blocks : List (Option Session))
    (outside : Option Session) (here : world.current = innermost blocks outside) :
    ∀ visit ∈ program.visits world blocks,
      visit.world.current = innermost visit.blocks outside := by
  -- The world and the blocks change together: a block is entered with its own session in front,
  -- and what is found behind it is found with the blocks of before.
  induction program generalizing world blocks with
  | done | throw => exact fun _ none => nomatch none
  | perform operation keep rest ih =>
    have after : ((world.perform operation).1.keep keep
        (world.perform operation).2.result).current = innermost blocks outside := by
      rw [World.current_keep, (world.perform_elsewhere operation).2.1, here]
    exact List.forall_mem_cons.mpr ⟨here, ih _ blocks after⟩
  | within session body rest inside after =>
    refine List.forall_mem_append.mpr ⟨inside _ (session :: blocks) rfl, ?_⟩
    split
    · exact fun _ none => nomatch none
    · exact after (behind session body world) blocks here
  | guarded body rest inside after =>
    have there := (current_run body world).trans here
    exact List.forall_mem_append.mpr ⟨inside world blocks here, after _ blocks there⟩

/-- Every block of a run restores the session that it found. -/
theorem allRestore_run (program : Program n) (world : World n) :
    AllRestore (world.current.map Session.number) (program.run world).answers := by
  induction program generalizing world with
  | done | throw => exact trivial
  | perform operation keep rest ih =>
    have further := ih ((world.perform operation).1.keep keep (world.perform operation).2.result)
    rw [World.current_keep, (world.perform_elsewhere operation).2.1] at further
    exact ⟨trivial, further⟩
  | within session body rest inside after =>
    have inner := inside (world.under session)
    cases thrown : (body.run (world.under session)).thrown with
    | true =>
      rw [run_within_of_thrown session body rest world thrown]
      exact ⟨⟨rfl, rfl, inner⟩, trivial⟩
    | false =>
      rw [run_within_of_done session body rest world thrown]
      exact ⟨⟨rfl, rfl, inner⟩, after (behind session body world)⟩
  | guarded body rest inside after =>
    -- The guard stops a throw, and what it finds has the session of before.
    have further := after (body.run world).world
    rw [current_run] at further
    exact allRestore_append (inside world) further

/-- What every operation and every change of the session passes on holds wherever a program comes,
and where it ends. -/
theorem visits_hold (holds : World n → Prop)
    (performed : ∀ world operation label, holds world →
      holds ((world.perform operation).1.keep label (world.perform operation).2.result))
    (switched : ∀ world session, holds world → holds (world.under session))
    (program : Program n) (world : World n) (blocks : List (Option Session))
    (initial : holds world) :
    (∀ visit ∈ program.visits world blocks, holds visit.world) ∧
      holds (program.run world).world := by
  induction program generalizing world blocks with
  | done | throw => exact ⟨fun _ none => (nomatch none), initial⟩
  | perform operation keep rest ih =>
    obtain ⟨visited, ends⟩ := ih _ blocks (performed world operation keep initial)
    exact ⟨List.forall_mem_cons.mpr ⟨initial, visited⟩, ends⟩
  | within session body rest inside after =>
    obtain ⟨visited, ends⟩ := inside _ (session :: blocks) (switched world session initial)
    have left : holds (behind session body world) := switched _ world.current ends
    obtain ⟨visited', ends'⟩ := after _ blocks left
    rw [visits]
    cases thrown : (body.run (world.under session)).thrown with
    | true =>
      rw [run_within_of_thrown session body rest world thrown, if_pos rfl, List.append_nil]
      exact ⟨visited, left⟩
    | false =>
      rw [run_within_of_done session body rest world thrown, if_neg Bool.false_ne_true]
      exact ⟨List.forall_mem_append.mpr ⟨visited, visited'⟩, ends'⟩
  | guarded body rest inside after =>
    obtain ⟨visited, ends⟩ := inside world blocks initial
    obtain ⟨visited', ends'⟩ := after _ blocks ends
    exact ⟨List.forall_mem_append.mpr ⟨visited, visited'⟩, ends'⟩

/-- The same program with other sessions given to its blocks. -/
inductive Reblocked : Program n → Program n → Prop where
  | done : Reblocked .done .done
  | throw : Reblocked .throw .throw
  | perform {operation : Operation n} {keep : Option Label} {rest rest' : Program n}
      (further : Reblocked rest rest') :
      Reblocked (.perform operation keep rest) (.perform operation keep rest')
  | within {session session' : Option Session} {body body' rest rest' : Program n}
      (inside : Reblocked body body') (further : Reblocked rest rest') :
      Reblocked (.within session body rest) (.within session' body' rest')
  | guarded {body body' rest rest' : Program n} (inside : Reblocked body body')
      (further : Reblocked rest rest') : Reblocked (.guarded body rest) (.guarded body' rest')

end Program

/-- A catalog with a session of its own names declarations alike under every session. -/
theorem Catalog.perform_of_session (catalog : Catalog) (store : Store)
    (current other : Option Session) (request : Request Id)
    (settled : ∀ raw name context, request = .declare raw (some name) context →
      catalog.session.isSome) :
    catalog.perform store other request = catalog.perform store current request := by
  cases request with
  | declare raw name context =>
    cases name with
    | none => rfl
    | some name =>
      obtain ⟨session, own⟩ := Option.isSome_iff_exists.mp (settled raw name context rfl)
      have same (current : Option Session) : catalog.effective current = some session := by
        rw [Catalog.effective, own, Option.some_or]
      simp only [Catalog.perform, Catalog.declare, same]
  | _ => rfl

namespace World

variable {n : Nat}

/-- The operation does not ask for the session in force, neither to tell it nor to name something
with it. -/
def Settled (world : World n) : Operation n → Prop
  | .current => False
  | .resolve _ _ _ session => session.isSome
  | .request place (.declare _ (some _) _) => (world.catalog place).session.isSome
  | _ => True

/-- What does not ask for the session in force does the same under every session. -/
theorem perform_under_of_settled {world : World n} {operation : Operation n}
    (settled : world.Settled operation) (session : Option Session) :
    (world.under session).perform operation =
      ((world.perform operation).1.under session, (world.perform operation).2) := by
  have aside := world.perform_aside operation
  cases operation with
  | current => exact absurd settled id
  | resolve name scope raw own =>
    obtain ⟨own, rfl⟩ := Option.isSome_iff_exists.mp settled
    cases scope <;> rfl
  | request place request =>
    have find : (world.under session).find = world.find := rfl
    cases found : request.resolve world.find with
    | error fault =>
      simp only [perform, World.request, find, found]
      rfl
    | ok asked =>
      have same : ((world.under session).catalog place).perform (world.under session).store
          (world.under session).current asked =
            (world.catalog place).perform world.store world.current asked := by
        apply (world.catalog place).perform_of_session world.store world.current session
        rintro raw name context rfl
        obtain ⟨_, rfl⟩ := Request.eq_declare_of_resolve found
        exact settled
      simp only [perform, World.request, find, found, same]
      rfl
  | _ =>
    obtain ⟨_, same⟩ := aside trivial
    have kept := congrArg Prod.fst (same world.calls world.current)
    refine (same world.calls session).trans ?_
    rw [World.under, kept]

theorem keep_under (world : World n) (session : Option Session) (label : Option Label)
    (result : Except Fault Reply) :
    (world.under session).keep label result = (world.keep label result).under session := by
  unfold World.keep
  split <;> rfl

end World

namespace Program

variable {n : Nat}

/-- If nothing that a program does asks for the session in force, then the sessions of its blocks
and the one that it is run under make no difference. -/
theorem run_of_reblocked {program other : Program n} (reblocked : program.Reblocked other)
    (world : World n) (blocks : List (Option Session)) (session : Option Session)
    (settled : ∀ visit ∈ program.visits world blocks, visit.world.Settled visit.operation) :
    (other.run (world.under session)).thrown = (program.run world).thrown ∧
      (other.run (world.under session)).world = (program.run world).world.under session ∧
      reportsOf (other.run (world.under session)).answers =
        reportsOf (program.run world).answers := by
  induction reblocked generalizing world blocks session with
  | done | throw => exact ⟨rfl, rfl, rfl⟩
  | @perform operation keep rest rest' _ ih =>
    obtain ⟨here, further⟩ := List.forall_mem_cons.mp settled
    have same := World.perform_under_of_settled here session
    obtain ⟨thrown, ends, reports⟩ := ih _ blocks session further
    rw [← World.keep_under] at thrown ends reports
    simp only [run, same]
    refine ⟨thrown, ends, ?_⟩
    exact congrArg ((world.perform operation).2 :: ·) reports
  | @within own own' body body' rest rest' _ _ inside after =>
    obtain ⟨within, further⟩ := List.forall_mem_append.mp settled
    obtain ⟨thrown, ends, reports⟩ := inside (world.under own) (own :: blocks) own' within
    -- Inside, the session of the block has taken the place of whichever was in force.
    have entered : (world.under own).under own' = (world.under session).under own' := rfl
    rw [entered] at thrown ends reports
    have left : behind own' body' (world.under session) =
        (behind own body world).under session := by
      rw [behind, ends]
      rfl
    cases threw : (body.run (world.under own)).thrown with
    | true =>
      rw [run_within_of_thrown own' body' rest' _ (thrown.trans threw),
        run_within_of_thrown own body rest _ threw, left]
      refine ⟨rfl, rfl, ?_⟩
      simpa [reportsOf, Answer.reports] using reports
    | false =>
      rw [threw, if_neg Bool.false_ne_true] at further
      obtain ⟨thrown', ends', reports'⟩ := after _ blocks session further
      rw [run_within_of_done own' body' rest' _ (thrown.trans threw),
        run_within_of_done own body rest _ threw, left]
      refine ⟨thrown', ends', ?_⟩
      simp only [reportsOf, Answer.reports, reports, reports']
  | @guarded body body' rest rest' _ _ inside after =>
    obtain ⟨within, further⟩ := List.forall_mem_append.mp settled
    obtain ⟨_, ends, reports⟩ := inside world blocks session within
    obtain ⟨thrown', ends', reports'⟩ := after _ blocks session further
    rw [← ends] at thrown' ends' reports'
    simp only [run, reportsOf_append]
    exact ⟨thrown', ends', by rw [reports, reports']⟩

/-- How the sessions of blocks reach what a program does. -/
structure Scoped (program : Program n) (world : World n) : Prop where
  -- The visits are all that is reported of the program.
  reports : reportsOf (program.run world).answers = (program.visits world []).map Visit.report
  inForce : ∀ visit ∈ program.visits world [],
    visit.world.current = innermost visit.blocks world.current
  current : ∀ visit ∈ program.visits world [], visit.operation = .current →
    visit.report.result =
      .ok (.session ((innermost visit.blocks world.current).map Session.number))
  -- Thrown or not, blocks and program are left with the session that they were entered with.
  blocks : AllRestore (world.current.map Session.number) (program.run world).answers
  restored : (program.run world).world.current = world.current
  -- What is named asks its own session, or else the one of the innermost block, and goes by the
  -- key that came of the answers.
  named : ∀ visit ∈ program.visits world [], ∀ naming,
    visit.world.naming? visit.operation = some naming →
    naming.session =
      (world.own? visit.operation).or (innermost visit.blocks world.current) ∧
    naming.Course naming.exchange naming.key naming.result.notes ∧
    visit.world.KeyedBy naming.key visit.operation
  -- With a session of one's own, no other makes a difference, at one operation or all along.
  settled : ∀ visit ∈ program.visits world [], visit.world.Settled visit.operation →
    ∀ session, (visit.world.under session).perform visit.operation =
      ((visit.world.perform visit.operation).1.under session, visit.report)
  reblocked : (∀ visit ∈ program.visits world [], visit.world.Settled visit.operation) →
    ∀ other session, program.Reblocked other →
      (other.run (world.under session)).thrown = (program.run world).thrown ∧
      (other.run (world.under session)).world = (program.run world).world.under session ∧
      reportsOf (other.run (world.under session)).answers =
        reportsOf (program.run world).answers

/-- In every program the session in force is that of the innermost block. -/
theorem sessions_scoped (program : Program n) (world : World n) : program.Scoped world := by
  have inForce := program.inForce_visits world [] world.current rfl
  -- The sessions of catalogs never change, so one's own session is the one of the beginning.
  have owned : ∀ visit ∈ program.visits world [], ∀ place : Fin n,
      (visit.world.catalog place).session = (world.catalog place).session := by
    refine (visits_hold (fun here => ∀ place : Fin n,
      (here.catalog place).session = (world.catalog place).session) ?_ ?_ program world [] ?_).1
    · intro here operation label same place
      rw [World.catalog_keep, here.session_perform operation place, same place]
    · exact fun _ _ same => same
    · exact fun _ => rfl
  refine
    { reports := program.reports_run world []
      inForce
      current := ?_
      blocks := program.allRestore_run world
      restored := program.current_run world
      named := ?_
      settled := fun visit _ settled => World.perform_under_of_settled settled
      reblocked := fun settled other session alike =>
        run_of_reblocked alike world [] session settled }
  · intro visit member asks
    rw [Visit.report, asks, ← inForce visit member]
    rfl
  · intro visit member naming names
    refine ⟨?_, naming.course, World.keyedBy_naming names⟩
    rw [World.session_naming? names, World.own?_congr (owned visit member), inForce visit member]

/-- `interface X {}` -/
def interfaceX : Tree where
  file := 0
  source := "interface X \x7b\x7d".toUTF8.toList
  rows := #[
    ⟨"interface_declaration", none, none, true, some ⟨0, 14⟩⟩,
    ⟨"type_identifier", some 0, some "name", true, some ⟨10, 11⟩⟩]

/-- A session that finds `X` at every node. -/
def findingX (number : Nat) (path : String) : Session := .fixed number (some { name := "X" }) path

/-- Two catalogs, of which the first has a session of its own, and a namespace under a label. -/
def owningFirst : World 2 where
  store := Store.add ∅ (.ofNamespace "N")
  catalogs := #v[{ session := some (findingX 1 "own.X") }, {}]
  labels := Table.set ∅ "N" 0
  current := some (findingX 2 "ambient.X")

/-- Both catalogs declare `X` in the inner block, and the second one in a block without a session,
in the outer block, and when a throw has left that. -/
def declaringX : Program 2 :=
  let declare (place : Fin 2) : Operation 2 :=
    .request place (.declare (some ⟨interfaceX, 0, by decide⟩) (some "X") (some "N"))
  let first := declare ⟨0, Nat.zero_lt_two⟩
  let second := declare (Fin.last 1)
  let inner : Program 2 := .perform first none (.perform second none .done)
  let bare : Program 2 := .perform second none .done
  let outer : Program 2 := .within (some (findingX 4 "inner.X")) inner
    (.within none bare (.perform second none .throw))
  .guarded (.within (some (findingX 3 "outer.X")) outer .done) (.perform second none .done)

/-- What a program names, in order. -/
def namings (program : Program n) (world : World n) : List Naming :=
  (program.visits world []).filterMap fun visit => visit.world.naming? visit.operation

/-- Every session that is in force at some time decides another key, and so does the catalog's own
in the inner block. -/
theorem sessions_scoped_nested :
    (declaringX.namings owningFirst).map
        (fun naming => (naming.session.map Session.number, naming.key.toOption)) =
      [(some 1, some "own.X"), (some 4, some "inner.X"), (none, some "X"),
        (some 3, some "outer.X"), (some 2, some "ambient.X")] ∧
    (∀ naming ∈ declaringX.namings owningFirst,
      naming.Course naming.exchange naming.key naming.result.notes) ∧
    (declaringX.run owningFirst).world.catalogs.toList.map (·.declarations.keys) =
      [["own.X"], ["inner.X", "X", "outer.X", "ambient.X"]] ∧
    (declaringX.run owningFirst).world.current.map Session.number = some 2 := by
  have sessions := sessions_scoped declaringX owningFirst
  refine ⟨by decide +kernel, fun naming member => ?_, by decide +kernel, ?_⟩
  · obtain ⟨visit, visited, names⟩ := List.mem_filterMap.mp member
    exact (sessions.named visit visited naming names).2.1
  · rw [sessions.restored]
    rfl

end Program

end DeclMerge
