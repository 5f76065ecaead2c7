import DeclMerge.Output.Listing
import DeclMerge.Program.World

/-!
# Programs

A program performs operations one after the other. A block runs its body under a session of its
own, or under none, and puts the session of before back when it is left, also when it is left by
a throw. A throw leaves all blocks up to the next guard around it, behind which the program goes
on; without one it ends the program.
-/
namespace DeclMerge

inductive Program (n : Nat) where
  | done
  | perform (operation : Operation n) (keep : Option Label) (rest : Program n)
  | within (session : Option Session) (body rest : Program n)
  | guarded (body rest : Program n)
  | throw

/-- What is told of one step of a program. -/
inductive Answer where
  | report (report : Report)
  -- A block: the session that it was given, the session in force inside and after it, what its
  -- body answered, and whether a throw went through it.
  | block (given inside : Option Nat) (body : List Answer) (thrown : Bool) (after : Option Nat)

/-- What came of a program. -/
structure Run (n : Nat) where
  world : World n
  answers : List Answer := []
  thrown : Bool := false

def Program.run {n : Nat} : Program n → World n → Run n
  | .done, world => { world }
  | .throw, world => { world, thrown := true }
  | .perform operation label rest, world =>
    let (after, report) := world.perform operation
    let run := rest.run (after.keep label report.result)
    { run with answers := .report report :: run.answers }
  | .within session body rest, world =>
    let entered := { world with current := session }
    let inner := body.run entered
    let left := { inner.world with current := world.current }
    let answer := .block (session.map Session.number) (entered.current.map Session.number)
      inner.answers inner.thrown (left.current.map Session.number)
    if inner.thrown then { world := left, answers := [answer], thrown := true }
    else
      let run := rest.run left
      { run with answers := answer :: run.answers }
  | .guarded body rest, world =>
    let inner := body.run world
    let run := rest.run inner.world
    { run with answers := inner.answers ++ run.answers }

/-- The items that a reply speaks of, in the order of speaking. -/
def Reply.mentions : Reply → List Id
  | .item id _ => [id]
  | .children entries => entries.filterMap Prod.snd
  | .entry id => id.toList
  | _ => []

def Report.mentions (report : Report) : List Id :=
  match report.result with
  | .ok reply => reply.mentions
  | .error _ => []

mutual

def Answer.mentions : Answer → List Id
  | .report report => report.mentions
  | .block _ _ body _ _ => mentionsOf body

/-- The items that answers speak of, in the order of speaking. -/
def mentionsOf : List Answer → List Id
  | [] => []
  | answer :: rest => answer.mentions ++ mentionsOf rest

end

/-- The items of a run in their order of presentation. -/
def Run.listing {n : Nat} (run : Run n) : List Id :=
  run.world.store.listing (mentionsOf run.answers)

end DeclMerge
