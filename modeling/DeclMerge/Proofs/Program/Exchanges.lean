import DeclMerge.Proofs.Program.Naming

/-!
# What sessions are asked

A session is asked only for the sake of naming something in a namespace: for the symbol at the
name node, and then, if there is one, for the path to it. Over a whole run, what a session is
asked is the concatenation of these exchanges, in the order of the operations
(`questions_accounted`); sessions may answer differently from one operation to the next.
-/
namespace DeclMerge

namespace Naming

/-- What the session is asked: the symbol at the name node, then the path to the symbol. -/
def exchange (naming : Naming) : List Query :=
  match naming.scope, naming.session, naming.raw.bind Node.nameNode? with
  | .inNamespace _, some session, some identifier =>
    .symbolAt identifier ::
      match session.symbolAt identifier with
      | .ok (some symbol) => [.pathOf symbol identifier false]
      | _ => []
  | _, _, _ => []

/-- The ways in which naming can go: what is asked, the key, and what is noted. In a namespace the
key is the path that the session answered, or the bare name with one note that says why. -/
inductive Course (naming : Naming) :
    List Query → Except Utf8.Fault String → List Note → Prop where
  | elsewhere {key : String} (outside : ∀ space, naming.scope ≠ .inNamespace space) :
      Course naming [] (.ok key) []
  | noSession {space : String} (inside : naming.scope = .inNamespace space)
      (none : naming.session = none) :
      Course naming [] (.ok naming.name) [.bareName .noSession naming.name space]
  | noNameNode {space : String} {session : Session} (inside : naming.scope = .inNamespace space)
      (asked : naming.session = some session) (none : naming.raw.bind Node.nameNode? = none) :
      Course naming [] (.ok naming.name) [.bareName .noNameNode naming.name space]
  | noSymbol {space : String} {session : Session} {identifier : Node}
      (inside : naming.scope = .inNamespace space) (asked : naming.session = some session)
      (named : naming.raw.bind Node.nameNode? = some identifier)
      (none : session.symbolAt identifier = .ok none) :
      Course naming [.symbolAt identifier] (.ok naming.name)
        [.bareName .noSymbol naming.name space]
  | path {space : String} {session : Session} {identifier : Node} {symbol : Symbol}
      (inside : naming.scope = .inNamespace space) (asked : naming.session = some session)
      (named : naming.raw.bind Node.nameNode? = some identifier)
      (found : session.symbolAt identifier = .ok (some symbol)) :
      Course naming [.symbolAt identifier, .pathOf symbol identifier false]
        (session.pathOf symbol identifier false) []
  -- The session itself failed.
  | failed {space : String} {session : Session} {identifier : Node} {fault : Utf8.Fault}
      (inside : naming.scope = .inNamespace space) (asked : naming.session = some session)
      (named : naming.raw.bind Node.nameNode? = some identifier)
      (failed : session.symbolAt identifier = .error fault) :
      Course naming [.symbolAt identifier] (.error fault) []

theorem course (naming : Naming) :
    naming.Course naming.exchange naming.key naming.result.notes := by
  -- Scope, session, name node, symbol: each is looked at only if the one before is there.
  obtain ⟨scope, name, raw, session⟩ := naming
  cases scope with
  | global => exact .elsewhere fun _ same => nomatch same
  | inModule owner => exact .elsewhere fun _ same => nomatch same
  | inNamespace space =>
    cases session with
    | none => exact .noSession rfl rfl
    | some session =>
      cases named : raw.bind Node.nameNode? with
      | none =>
        simp only [exchange, key, result, Scope.keyOf, named]
        exact .noNameNode rfl rfl named
      | some identifier =>
        simp only [exchange, key, result, Scope.keyOf, named, Session.keyAt]
        cases found : session.symbolAt identifier with
        | error fault => exact .failed rfl rfl named found
        | ok symbol =>
          cases symbol with
          | none => exact .noSymbol rfl rfl named found
          | some symbol => exact .path rfl rfl named found

/-- Nobody but the session of the naming is asked, and it is asked the exchange. -/
theorem calls_eq (naming : Naming) :
    naming.result.calls =
      naming.session.elim [] fun session => naming.exchange.map (⟨session.number, ·⟩) := by
  obtain ⟨scope, name, raw, session⟩ := naming
  cases scope with
  | global | inModule owner => cases session <;> rfl
  | inNamespace space =>
    cases session with
    | none => rfl
    | some session =>
      simp only [result, exchange, Scope.keyOf, Option.elim_some]
      cases raw.bind Node.nameNode? with
      | none => rfl
      | some identifier =>
        simp only [Session.keyAt]
        cases session.symbolAt identifier with
        | error fault => rfl
        | ok symbol => cases symbol <;> rfl

end Naming

/-- The questions that a session was asked, in order. -/
def received (number : Nat) (calls : List Call) : List Query :=
  (calls.filter (·.session = number)).map Call.query

theorem received_append (number : Nat) (first second : List Call) :
    received number (first ++ second) = received number first ++ received number second := by
  rw [received, List.filter_append, List.map_append, received, received]

/-- A turn, at a time when the sessions of catalogs answer in a way of their own. The session in
force and one that an operation brings along are given as they answer at the time. -/
structure Occasion (n : Nat) extends Turn n where
  answering : Session → Session
  same : ∀ session, (answering session).number = session.number

namespace World

variable {n : Nat}

/-- What the session with this number is asked for the sake of an operation. -/
def exchange (world : World n) (number : Nat) (operation : Operation n) : List Query :=
  match world.naming? operation with
  | some naming =>
    if naming.session.map Session.number = some number then naming.exchange else []
  | none => []

/-- One operation adds its exchange to what a session was asked before. -/
theorem received_perform (world : World n) (number : Nat) (operation : Operation n) :
    received number (world.perform operation).1.calls =
      received number world.calls ++ world.exchange number operation := by
  rw [(world.perform_naming operation).1, received_append]
  refine congrArg _ ?_
  -- All calls of the operation are to one session: this one, or another.
  unfold exchange
  cases world.naming? operation with
  | none => rfl
  | some naming =>
    simp only [Option.elim_some, naming.calls_eq, received]
    cases naming.session with
    | none => rfl
    | some session =>
      simp only [Option.elim_some, Option.map_some, Option.some.injEq]
      split
      next same => simp [List.filter_map, Function.comp_def, same]
      next other => simp [List.filter_map, Function.comp_def, other]

/-- The world with the catalogs' sessions as they answer on this occasion. -/
def met (world : World n) (occasion : Occasion n) : World n :=
  { world with catalogs := world.catalogs.map fun catalog =>
      { catalog with session := catalog.session.map occasion.answering } }

def occur (world : World n) (occasion : Occasion n) : World n :=
  (world.met occasion).after occasion.toTurn

/-- The operations of a run, each with the world that it finds. -/
def scenes (world : World n) : List (Occasion n) → List (World n × Operation n)
  | [] => []
  | occasion :: rest =>
    ((world.met occasion).under occasion.current, occasion.operation) ::
      (world.occur occasion).scenes rest

theorem calls_keep (world : World n) (label : Option Label) (result : Except Fault Reply) :
    (world.keep label result).calls = world.calls := by
  unfold keep
  split <;> rfl

/-- On every occasion the sessions of catalogs are those of before. -/
theorem own?_met (world : World n) (occasion : Occasion n) (operation : Operation n) :
    ((world.met occasion).own? operation).map Session.number =
      (world.own? operation).map Session.number := by
  cases operation with
  | request place request =>
    simp only [own?, met, catalog, Fin.getElem_fin, Vector.getElem_map, Option.map_map]
    exact congrArg (Option.map · _) (funext occasion.same)
  | _ => rfl

theorem own?_occur (world : World n) (occasion : Occasion n) (operation : Operation n) :
    ((world.occur occasion).own? operation).map Session.number =
      (world.own? operation).map Session.number := by
  have kept : (world.occur occasion).own? operation = (world.met occasion).own? operation := by
    refine own?_congr (fun place => ?_) operation
    rw [occur, catalog_after]
    exact session_perform _ occasion.operation place
  rw [kept, own?_met]

theorem own?_scenes (world : World n) (occasions : List (Occasion n)) :
    ∀ scene ∈ world.scenes occasions,
      (scene.1.own? scene.2).map Session.number = (world.own? scene.2).map Session.number := by
  induction occasions generalizing world with
  | nil => exact fun _ none => nomatch none
  | cons occasion rest ih =>
    refine List.forall_mem_cons.mpr ⟨world.own?_met occasion _, fun scene later => ?_⟩
    rw [ih (world.occur occasion) scene later, own?_occur]

theorem received_run (world : World n) (occasions : List (Occasion n)) (number : Nat) :
    received number (occasions.foldl occur world).calls = received number world.calls ++
      (world.scenes occasions).flatMap fun scene => scene.1.exchange number scene.2 := by
  induction occasions generalizing world with
  | nil => exact (List.append_nil _).symm
  | cons occasion rest ih =>
    have here : received number (world.occur occasion).calls = received number world.calls ++
        ((world.met occasion).under occasion.current).exchange number occasion.operation := by
      have step := ((world.met occasion).under occasion.current).received_perform number
        occasion.operation
      rw [← calls_keep _ occasion.keep _] at step
      exact step
    rw [List.foldl_cons, ih, here, scenes, List.flatMap_cons, List.append_assoc]

/-- Only what names something asks a session, or notes something about keys. It asks its own
session or else the one in force, and the key by which it goes is what came of the exchange. -/
def Accounted (world : World n) (operation : Operation n) : Prop :=
  let notes := (world.perform operation).2.notes.filter (·.IsAboutKey)
  match world.naming? operation with
  | none => notes = []
  | some naming =>
    naming.session = (world.own? operation).or world.current ∧
    naming.Course naming.exchange naming.key notes ∧ world.KeyedBy naming.key operation

theorem accounted (world : World n) (operation : Operation n) : world.Accounted operation := by
  unfold Accounted
  rw [(world.perform_naming operation).2]
  cases names : world.naming? operation with
  | none => rfl
  | some naming => exact ⟨session_naming? names, naming.course, keyedBy_naming names⟩

/-- Over a run, what a session is asked is the concatenation of the exchanges with it, one for
each operation that names something, in their order; the exchange decides the key and whether
there is a note. If sessions never change their answers, this is the run of the turns. -/
theorem questions_accounted (world : World n) (occasions : List (Occasion n)) :
    (∀ number, received number (occasions.foldl occur world).calls =
      received number world.calls ++
        (world.scenes occasions).flatMap fun scene => scene.1.exchange number scene.2) ∧
    (∀ scene ∈ world.scenes occasions, scene.1.Accounted scene.2 ∧
      (scene.1.own? scene.2).map Session.number = (world.own? scene.2).map Session.number) ∧
    ((∀ occasion ∈ occasions, occasion.answering = id) →
      occasions.foldl occur world = world.run (occasions.map Occasion.toTurn)) := by
  refine ⟨world.received_run occasions, fun scene member => ?_, fun steady => ?_⟩
  · exact ⟨scene.1.accounted scene.2, world.own?_scenes occasions scene member⟩
  · induction occasions generalizing world with
    | nil => rfl
    | cons occasion rest ih =>
      obtain ⟨here, further⟩ := List.forall_mem_cons.mp steady
      have met : world.met occasion = world := by
        simp [met, here]
      rw [List.foldl_cons, occur, met, ih _ further]
      rfl

end World

end DeclMerge
