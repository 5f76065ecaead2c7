import DeclMerge.Proofs.Catalog.Effect
import DeclMerge.Proofs.Program.Turns

/-!
# Declarations that fail

Everything that can make a declaration fail is read before a table is asked: first what its key
takes, then its shapes. So a fault depends on the statement, the name, the scope and the session
alone (`discard_declare`), and a declaration that fails leaves nothing behind. Over a whole run,
`told_spared` and `run_spared` say that one may as well leave all of these out.
-/
namespace DeclMerge

/-- What a declaration reads: its key, if it has a name, and the shapes that it contributes. -/
def readDeclaration (raw : Option Node) (name : Option String) (scope : Scope)
    (session : Option Session) : Except Utf8.Fault (Option String × List Shape) := do
  let key ← name.mapM fun name => (scope.keyOf name raw session).key
  let shapes ← shapesOf raw
  return (key, shapes)

namespace Catalog

variable (catalog : Catalog) (store : Store) (current : Option Session) (raw : Option Node)
  (name : Option String) (context : Option Id)

/-- Whether a declaration fails, and with which fault, is decided by what it reads. -/
theorem discard_declare :
    discard (catalog.declare store current raw name context).result =
      discard ((readDeclaration raw name (store.scopeAt context)
        (catalog.effective current)).mapError Fault.undecodable) := by
  cases name with
  | none =>
    simp only [declare, readDeclaration]
    cases shapesOf raw <;> rfl
  | some name =>
    simp only [declare, readDeclaration, Option.mapM_some]
    generalize (store.scopeAt context).keyOf name raw (catalog.effective current) = named
    cases named.key with
    | error fault => rfl
    | ok key =>
      cases shapesOf raw with
      | error fault => rfl
      | ok shapes =>
        -- The key is read, and now it makes no difference whether the table knows it.
        simp only [merge]
        split <;> rfl

/-- A declaration that fails leaves tables and items as they were. -/
theorem declare_of_error {fault : Fault}
    (failed : (catalog.declare store current raw name context).result = .error fault) :
    (catalog.declare store current raw name context).catalog = catalog ∧
      (catalog.declare store current raw name context).store = store := by
  have effect := catalog.declare_effect store current raw name context
  generalize catalog.declare store current raw name context = outcome at effect failed
  cases effect with
  | made plain => cases plain
  | anonymous => cases failed
  | merged => cases failed
  | registered => cases failed
  | _ => exact ⟨rfl, rfl⟩

end Catalog

/-- Whether an operation asks a catalog for a declaration. -/
def Operation.declares {n : Nat} : Operation n → Bool
  | .request _ (.declare ..) => true
  | _ => false

/-- A declaration that was asked for and failed. -/
def isFailedDeclaration {n : Nat} (entry : Turn n × Report) : Bool :=
  entry.1.operation.declares && !entry.2.result.isOk

namespace World

variable {n : Nat}

/-- The turns of a run without the declarations that failed in it. -/
def spared (world : World n) (turns : List (Turn n)) : List (Turn n) :=
  ((world.told turns).filter (!isFailedDeclaration ·)).map Prod.fst

theorem keep_of_error (world : World n) (label : Option Label) (fault : Fault) :
    world.keep label (.error fault) = world := by
  cases label <;> rfl

/-- A declaration that fails changes nothing but the record of questions. -/
theorem request_of_error {world : World n} {place : Fin n} {raw : Option Node}
    {name : Option String} {context : Option Label} {fault : Fault}
    (failed : (world.request place (.declare raw name context)).2.result = .error fault) :
    world.Agrees (world.request place (.declare raw name context)).1 := by
  cases found : context.mapM world.find with
  | error fault =>
    simp only [World.request, Request.resolve, found]
    exact .refl world
  | ok context =>
    simp only [World.request, Request.resolve, found, Except.map, Catalog.perform] at failed ⊢
    cases came :
      ((world.catalog place).declare world.store world.current raw name context).result with
    | ok id =>
      rw [came] at failed
      cases failed
    | error fault =>
      obtain ⟨catalog, store⟩ := (world.catalog place).declare_of_error _ _ _ _ _ came
      have kept : world.catalogs.set place (world.catalog place) = world.catalogs :=
        Vector.set_getElem_self ..
      generalize (world.catalog place).declare world.store world.current raw name context = outcome
        at catalog store ⊢
      refine ⟨world.calls ++ outcome.calls, ?_⟩
      rw [catalog, store, kept]

theorem agrees_after_of_failed {world : World n} {turn : Turn n}
    (failed : isFailedDeclaration (turn, world.report turn) = true) :
    world.Agrees (world.after turn) := by
  obtain ⟨current, operation, label⟩ := turn
  obtain ⟨declares, unanswered⟩ := Bool.and_eq_true_iff.mp failed
  unfold Operation.declares at declares
  dsimp only at declares
  split at declares
  next place raw name context =>
    unfold report at unanswered
    cases came : ((world.under current).request place (.declare raw name context)).2.result with
    | ok reply =>
      rw [World.perform, came] at unanswered
      cases unanswered
    | error fault =>
      have unchanged := (request_of_error came).under world.current
      simp only [World.after, report, World.perform, came, keep_of_error]
      exact unchanged
  · cases declares

theorem spared_cons_of_failed {world : World n} {turn : Turn n} (rest : List (Turn n))
    (failed : isFailedDeclaration (turn, world.report turn) = true) :
    world.spared (turn :: rest) = (world.after turn).spared rest := by
  rw [spared, told, List.filter_cons_of_neg (by rw [failed]; exact Bool.false_ne_true), spared]

theorem spared_cons_of_answered {world : World n} {turn : Turn n} (rest : List (Turn n))
    (answered : isFailedDeclaration (turn, world.report turn) = false) :
    world.spared (turn :: rest) = turn :: (world.after turn).spared rest := by
  rw [spared, told, List.filter_cons_of_pos (by rw [answered]; rfl), List.map_cons, spared]

/-- The turns that are left are reported of as if the failed declarations were there. -/
theorem told_spared (world : World n) (turns : List (Turn n)) :
    world.told (world.spared turns) = (world.told turns).filter (!isFailedDeclaration ·) := by
  induction turns generalizing world with
  | nil => rfl
  | cons turn rest ih =>
    cases failed : isFailedDeclaration (turn, world.report turn) with
    | true =>
      -- The world before the turn can stand for the one after it.
      rw [spared_cons_of_failed rest failed, (agrees_after_of_failed failed).told_eq, ih, told,
        List.filter_cons_of_neg (by rw [failed]; exact Bool.false_ne_true)]
    | false =>
      rw [spared_cons_of_answered rest failed, told, ih, told,
        List.filter_cons_of_pos (by rw [failed]; rfl)]

theorem run_spared (world : World n) (turns : List (Turn n)) :
    (world.run turns).Agrees (world.run (world.spared turns)) := by
  induction turns generalizing world with
  | nil => exact .refl world
  | cons turn rest ih =>
    cases failed : isFailedDeclaration (turn, world.report turn) with
    | true =>
      rw [spared_cons_of_failed rest failed, run_cons]
      exact (ih (world.after turn)).trans ((agrees_after_of_failed failed).symm.run _)
    | false =>
      rw [spared_cons_of_answered rest failed, run_cons, run_cons]
      exact ih (world.after turn)

/-- Of a declaration that fails nothing is left, and what it fails on was never in a table. So a
run without the declarations that fail in it tells the same of all other turns, and ends with the
same catalogs, items and labels. -/
theorem failures_leave_no_trace (start : World n) (turns : List (Turn n)) :
    (∀ (catalog : Catalog) (store : Store) (current : Option Session) (raw : Option Node)
      (name : Option String) (context : Option Id),
      let outcome := catalog.perform store current (.declare raw name context)
      discard outcome.result =
        discard ((readDeclaration raw name (store.scopeAt context)
          (catalog.effective current)).mapError Fault.undecodable) ∧
      ∀ fault, outcome.result = .error fault →
        outcome.catalog = catalog ∧ outcome.store = store) ∧
    start.told (start.spared turns) = (start.told turns).filter (!isFailedDeclaration ·) ∧
    (start.run turns).Agrees (start.run (start.spared turns)) := by
  refine ⟨fun catalog store current raw name context => ⟨?_, fun fault failed => ?_⟩, ?_, ?_⟩
  · exact catalog.discard_declare store current raw name context
  · exact catalog.declare_of_error store current raw name context failed
  · exact start.told_spared turns
  · exact start.run_spared turns

/-- `interface A { ?: a }`, with a byte at the mark that is no text. -/
def garbled : Tree where
  file := 0
  source := "interface A \x7b ".toUTF8.toList ++ [0xFF] ++ ": a \x7d".toUTF8.toList
  rows := #[
    ⟨"interface_declaration", none, none, true, some ⟨0, 20⟩⟩,
    ⟨"interface_body", some 0, some "body", true, some ⟨12, 20⟩⟩,
    ⟨"property_signature", some 1, none, true, some ⟨14, 18⟩⟩]

def garbledA : Node := ⟨garbled, 0, by decide⟩

/-- The garbled statement before and after one that makes its key known. -/
def garbling : List (Turn 1) :=
  let declaring (raw : Option Node) : Turn 1 :=
    { current := none, operation := .request 0 (.declare raw (some "A") none) }
  [declaring (some garbledA), declaring none, declaring (some garbledA)]

theorem failures_leave_no_trace_garbling :
    let start : World 1 := { catalogs := #v[{}] }
    let final := start.run garbling
    let again := final.catalogs[0].perform final.store none
      (.declare (some garbledA) (some "A") none)
    (start.told garbling).map isFailedDeclaration = [true, false, true] ∧
    (start.told (start.spared garbling)).map (·.2.sizes) = [some (0, 1)] ∧
    again.result.isOk = false ∧ again.store = final.store := by
  intro start final again
  obtain ⟨single, told, _⟩ := failures_leave_no_trace start garbling
  have failed : again.result.isOk = false := by decide +kernel
  have unchanged : again.store = final.store := by
    cases came : again.result with
    | ok id =>
      rw [came] at failed
      cases failed
    | error fault =>
      exact ((single final.catalogs[0] final.store none _ _ none).2 fault came).2
  refine ⟨by decide +kernel, ?_, failed, unchanged⟩
  rw [told]
  decide +kernel

end World

end DeclMerge
