import DeclMerge.Proofs.Program.Mirror

/-!
# Runs of several parties

In one world several parties take turns, each with a catalog of its own, in whatever order. As
long as each is only handed items that were made in its own turns, none notices the others: in a
run of its turns alone the same is reported, and the same items are made, under identities that
count only the items of this party. One turn is `Mirrors.after` for the party that takes it and
`Mirrors.of_spares` for every other; runs follow by induction (`Aligned.run`).
-/
namespace DeclMerge

/-- A turn that is taken by one of the parties, each of which has a catalog. -/
structure Move (n : Nat) where
  party : Fin n
  turn : Turn n

/-- The turns of one party. -/
def turnsOf {n : Nat} (party : Fin n) (moves : List (Move n)) : List (Turn n) :=
  (moves.filter (·.party = party)).map Move.turn

theorem turnsOf_cons {n : Nat} (party : Fin n) (move : Move n) (rest : List (Move n)) :
    turnsOf party (move :: rest) =
      if move.party = party then move.turn :: turnsOf party rest else turnsOf party rest := by
  rw [turnsOf, List.filter_cons]
  by_cases here : move.party = party
  · rw [if_pos (decide_eq_true here), if_pos here]
    rfl
  · rw [if_neg (by simpa using here), if_neg here]
    rfl

namespace World

variable {n : Nat}

/-- The world at the beginning: nothing was made, and every catalog is empty. -/
def fresh (sessions : Vector (Option Session) n) : World n where
  catalogs := sessions.map fun session => { session }

/-- The items that are made in the turns of one party, in the order of their making. -/
def made (party : Fin n) (world : World n) : List (Move n) → List Id
  | [] => []
  | move :: rest =>
    let after := world.after move.turn
    (if move.party = party then world.store.since after.store else []) ++ after.made party rest

/-- What is reported to one party. -/
def reportsTo (party : Fin n) (world : World n) : List (Move n) → List Report
  | [] => []
  | move :: rest =>
    let later := (world.after move.turn).reportsTo party rest
    if move.party = party then world.report move.turn :: later else later

/-- The labels are given to items that are there. -/
def Labelled (world : World n) : Prop :=
  ∀ label id, world.labels.get? label = some id → id < world.store.next

/-- On the way from one world to a later one only these items and this catalog are concerned, and
only labels of these or new items are given. -/
structure Spares (place : Fin n) (items : List Id) (before after : World n) : Prop where
  store : before.store.Spares items after.store
  catalogs : ∀ other, other ≠ place → after.catalog other = before.catalog other
  labels : ∀ label, after.labels.get? label = before.labels.get? label ∨
    ∃ id ∈ items ++ before.store.since after.store, after.labels.get? label = some id

variable {place : Fin n} {items : List Id} {own shared shared' : World n}

/-- Results that are alike answer no item, or items that stand for each other. -/
theorem item?_alike {result result' : Except Fault Reply}
    (alike : Likewise (Reply.Alike items) result result') :
    Option.Rel (Stands items) (result.toOption.bind Reply.item?)
      (result'.toOption.bind Reply.item?) := by
  cases alike with
  | error fault => exact .none
  | ok here => exact here.item?

namespace Mirrors

theorem under (mirrors : own.Mirrors place items shared) (session session' : Option Session) :
    (own.under session).Mirrors place items (shared.under session') :=
  ⟨mirrors.store, mirrors.catalog, mirrors.bound, mirrors.unbound⟩

theorem keep (mirrors : own.Mirrors place items shared) (label : Option Label)
    {result result' : Except Fault Reply} (alike : Likewise (Reply.Alike items) result result') :
    (own.keep label result).Mirrors place items (shared.keep label result') := by
  have kept := item?_alike alike
  unfold World.keep
  generalize result.toOption.bind Reply.item? = id,
    result'.toOption.bind Reply.item? = other at kept
  cases label with
  | none => exact mirrors
  | some label =>
    cases kept with
    | none => exact mirrors
    | some stands =>
      refine ⟨mirrors.store, mirrors.catalog, fun name id member found => ?_, fun name free => ?_⟩
      · rw [Table.get?_set] at found ⊢
        split at found
        next same =>
          cases found
          exact ⟨_, if_pos same, stands⟩
        next differ =>
          rw [if_neg differ]
          exact mirrors.bound name id member found
      · rw [Table.get?_set] at free ⊢
        split at free
        · cases free
        next differ =>
          rw [if_neg differ]
          exact mirrors.unbound name free

/-- After one operation in both worlds the mirror also shows what it made. -/
theorem of_followUp {left right : World n × Report} (mirrors : own.Mirrors place items shared)
    (labelled : shared.Labelled) (follows : FollowUp place items own shared left right)
    (labels : left.1.labels = own.labels) (labels' : right.1.labels = shared.labels) :
    left.1.Mirrors place (items ++ shared.store.since right.1.store) right.1 where
  store := follows.store.mirrors
  catalog := follows.catalog
  bound label other member found := by
    rw [labels'] at found
    rw [labels]
    rcases List.mem_append.mp member with old | added
    · obtain ⟨id, here, stands⟩ := mirrors.bound label other old found
      exact ⟨id, here, stands.append _⟩
    · -- No label was given to an item that is made only now.
      have older := labelled label other found
      exact absurd older (Nat.not_lt_of_ge (Store.next_le_of_mem_since added))
  unbound label free := by
    rw [labels'] at free
    rw [labels]
    exact mirrors.unbound label free

/-- A turn that is handed nothing but what the party has is reported of alike, and the mirror goes
on. -/
theorem after (mirrors : own.Mirrors place items shared) (labelled : shared.Labelled)
    {turn : Turn n} (within : turn.operation.Within place items shared.labels) :
    let items' := items ++ shared.store.since (shared.after turn).store
    (own.after turn).Mirrors place items' (shared.after turn) ∧
      (own.report turn).Alike items' (shared.report turn) := by
  have entered := mirrors.under turn.current turn.current
  have follows := entered.perform_follows rfl within
  have changed := entered.of_followUp labelled follows (perform_elsewhere _ turn.operation).1
    (perform_elsewhere _ turn.operation).1
  rw [store_after]
  exact ⟨(changed.keep turn.keep follows.report.result).under _ _, follows.report⟩

/-- Such a turn concerns nothing else. -/
theorem spares_after (mirrors : own.Mirrors place items shared) (labelled : shared.Labelled)
    {turn : Turn n} (within : turn.operation.Within place items shared.labels) :
    shared.Spares place items (shared.after turn) where
  store := by
    rw [store_after]
    exact ((mirrors.under turn.current turn.current).perform_follows rfl within).store.spares
  catalogs other apart := by
    rw [catalog_after]
    refine (perform_elsewhere _ turn.operation).2.2 other fun addressed isAddressed => ?_
    rw [within.catalog addressed isAddressed]
    exact apart
  labels label := by
    rcases shared.labels_after turn label with same | ⟨id, item, given⟩
    · exact .inl same
    · -- What is answered is an item of the party, since it is one also in the other world.
      have kept := item?_alike (mirrors.after labelled within).2.result
      rw [item] at kept
      generalize (own.report turn).result.toOption.bind Reply.item? = sought at kept
      cases kept with
      | some stands => exact .inr ⟨id, stands.mem, given⟩

/-- A party does not see what concerns only items and catalogs of another one. -/
theorem of_spares {other : Fin n} {others : List Id} (mirrors : own.Mirrors place items shared)
    (spares : shared.Spares other others shared') (apart : place ≠ other)
    (disjoint : items.Disjoint (others ++ shared.store.since shared'.store)) :
    own.Mirrors place items shared' where
  store := mirrors.store.of_spares spares.store
    (List.disjoint_of_disjoint_append_right_left disjoint)
  catalog := by
    rw [spares.catalogs place apart]
    exact mirrors.catalog
  bound label id member found := by
    rcases spares.labels label with same | ⟨foreign, isForeign, given⟩
    · rw [same] at found
      exact mirrors.bound label id member found
    · cases found.symm.trans given
      exact absurd isForeign (disjoint member)
  unbound label free := by
    rcases spares.labels label with same | ⟨foreign, _, given⟩
    · rw [same] at free
      exact mirrors.unbound label free
    · cases free.symm.trans given

end Mirrors

/-- The parties of one world, each with the items that were made for it and with the world that
it has alone: it is mirrored there, and no item belongs to two parties. -/
structure Aligned (items : Fin n → List Id) (shared : World n) (own : Fin n → World n) : Prop where
  mirrors : ∀ party, (own party).Mirrors party (items party) shared
  disjoint : ∀ party other, party ≠ other → (items party).Disjoint (items other)
  labelled : shared.Labelled

theorem Spares.labelled (spares : shared.Spares place items shared') (labelled : shared.Labelled)
    (mirrors : own.Mirrors place (items ++ shared.store.since shared'.store) shared') :
    shared'.Labelled := by
  intro label id found
  rcases spares.labels label with same | ⟨other, member, given⟩
  · rw [same] at found
    exact Nat.lt_of_lt_of_le (labelled label id found) spares.store.grown
  · cases found.symm.trans given
    exact mirrors.store.older id member

theorem append_made_cons (items : List Id) (party : Fin n) (world : World n) (move : Move n)
    (rest : List (Move n)) :
    items ++ world.made party (move :: rest) =
      (if move.party = party then items ++ world.store.since (world.after move.turn).store
        else items) ++ (world.after move.turn).made party rest := by
  rw [made]
  split
  · rw [List.append_assoc]
  · rw [List.nil_append]

theorem run_turnsOf_cons (world : World n) (party : Fin n) (move : Move n)
    (rest : List (Move n)) :
    world.run (turnsOf party (move :: rest)) =
      (if move.party = party then world.after move.turn else world).run (turnsOf party rest) := by
  rw [turnsOf_cons]
  split <;> rfl

/-- Every turn of these is handed only what its party has at that time. -/
def Handed (owned : Fin n → List Id) (world : World n) (moves : List (Move n)) : Prop :=
  ∀ past move future, moves = past ++ move :: future →
    move.turn.operation.Within move.party (owned move.party ++ world.made move.party past)
      (world.run (past.map Move.turn)).labels

namespace Aligned

variable {owned : Fin n → List Id} {alone : Fin n → World n}

/-- New items belong to nobody yet. -/
theorem disjoint_since (aligned : Aligned owned shared alone) (party : Fin n) (after : World n) :
    (owned party).Disjoint (shared.store.since after.store) := by
  intro id member added
  have older := (aligned.mirrors party).store.older id member
  exact Nat.not_lt_of_ge (Store.next_le_of_mem_since added) older

/-- One turn: the party that takes it goes on, and the others stay where they are. -/
theorem after (aligned : Aligned owned shared alone) {move : Move n}
    (within : move.turn.operation.Within move.party (owned move.party) shared.labels) :
    let new := shared.store.since (shared.after move.turn).store
    Aligned (fun party => if move.party = party then owned party ++ new else owned party)
        (shared.after move.turn)
        (fun party => if move.party = party then (alone party).after move.turn else alone party) ∧
      ((alone move.party).report move.turn).Alike (owned move.party ++ new)
        (shared.report move.turn) := by
  intro new
  obtain ⟨mirrors, report⟩ := (aligned.mirrors move.party).after aligned.labelled within
  have spares := (aligned.mirrors move.party).spares_after aligned.labelled within
  have apart {party : Fin n} (other : move.party ≠ party) :
      (owned party).Disjoint (owned move.party ++ new) :=
    List.disjoint_append_right.mpr
      ⟨aligned.disjoint party move.party other.symm, aligned.disjoint_since party _⟩
  refine ⟨⟨fun party => ?_, fun party other differ => ?_, ?_⟩, report⟩
  · split
    next here =>
      subst here
      exact mirrors
    next elsewhere =>
      exact (aligned.mirrors party).of_spares spares (Ne.symm elsewhere) (apart elsewhere)
  · split
    next here =>
      subst here
      rw [if_neg differ]
      exact List.disjoint_symm (apart differ)
    next elsewhere =>
      split
      next here =>
        subst here
        exact apart elsewhere
      · exact aligned.disjoint party other differ
  · exact spares.labelled aligned.labelled mirrors

/-- All turns, of all parties: each goes on as it does alone. -/
theorem run (aligned : Aligned owned shared alone) {moves : List (Move n)}
    (handed : Handed owned shared moves) :
    Aligned (fun party => owned party ++ shared.made party moves)
        (shared.run (moves.map Move.turn)) (fun party => (alone party).run (turnsOf party moves)) ∧
      ∀ party, List.Forall₂ (Report.Alike (owned party ++ shared.made party moves))
        (((alone party).told (turnsOf party moves)).map Prod.snd)
        (shared.reportsTo party moves) := by
  induction moves generalizing owned shared alone with
  | nil =>
    simp only [made, List.append_nil]
    exact ⟨aligned, fun party => .nil⟩
  | cons move rest ih =>
    have first := handed [] move rest rfl
    simp only [made, List.append_nil] at first
    obtain ⟨next, report⟩ := aligned.after first
    have later := ih next fun past move' future split => by
      have within := handed (move :: past) move' future (by rw [split]; rfl)
      rw [append_made_cons] at within
      exact within
    simp only [← append_made_cons, ← run_turnsOf_cons] at later
    refine ⟨later.1, fun party => ?_⟩
    have reports := later.2 party
    rw [turnsOf_cons, reportsTo]
    by_cases here : move.party = party
    · subst here
      rw [if_pos rfl] at reports
      rw [if_pos rfl, if_pos rfl]
      refine .cons ?_ reports
      rw [append_made_cons, if_pos rfl]
      exact report.append _
    · rw [if_neg here] at reports
      rw [if_neg here, if_neg here]
      exact reports

end Aligned

theorem aligned_fresh (sessions : Vector (Option Session) n) :
    Aligned (fun _ => []) (fresh sessions) (fun _ => fresh sessions) := by
  have same (party : Fin n) :
      ((fresh sessions).catalog party).Mirrors [] ((fresh sessions).catalog party) := by
    have empty : (fresh sessions).catalog party = { session := sessions[party] } :=
      Vector.getElem_map ..
    rw [empty]
    exact ⟨rfl, .empty, .empty, rfl⟩
  refine ⟨fun party => ⟨⟨rfl, .nil, ?_, ?_⟩, same party, ?_, ?_⟩, ?_, ?_⟩
  · intro _ member
    cases member
  · intro _ _ stands
    cases stands
  · intro _ _ member
    cases member
  · exact fun _ _ => rfl
  · exact fun _ _ _ => List.disjoint_nil_left _
  · intro _ _ found
    cases found

/-! ### Main result -/

/-- The turns of a party come out as they do alone, whatever turns the others take in between, as
long as no turn is handed what belongs to another party. Reports, catalogs and items are the same,
where the items that are made alone stand for those that are made for the party in the world that
it shares; these are told apart, and no item is made for two parties. -/
theorem runs_apart (sessions : Vector (Option Session) n) (moves : List (Move n))
    (handed : ∀ past move future, moves = past ++ move :: future →
      move.turn.operation.Within move.party ((fresh sessions).made move.party past)
        ((fresh sessions).run (past.map Move.turn)).labels) :
    let start := fresh sessions
    let final := start.run (moves.map Move.turn)
    ∀ party,
      let items := start.made party moves
      let alone := start.run (turnsOf party moves)
      (items.Nodup ∧ items.length = alone.store.size ∧
        ∀ other, party ≠ other → items.Disjoint (start.made other moves)) ∧
      List.Forall₂ (Report.Alike items) ((start.told (turnsOf party moves)).map Prod.snd)
        (start.reportsTo party moves) ∧
      (alone.catalog party).Mirrors items (final.catalog party) ∧
      ∀ id other, Stands items id other →
        alone.store.content id = final.store.content other ∧
        (alone.store.children id).Alike (Option.Rel (Stands items))
          (final.store.children other) := by
  intro start final party items alone
  obtain ⟨aligned, reports⟩ := (aligned_fresh sessions).run handed
  have mirrors : alone.Mirrors party items final := aligned.mirrors party
  refine ⟨⟨mirrors.store.apart, mirrors.store.size, aligned.disjoint party⟩, reports party,
    mirrors.catalog, fun id other stands => ⟨?_, ?_⟩⟩
  · exact mirrors.store.content_eq stands
  · exact mirrors.store.children_alike stands

/-- Two parties open a module of one name in turn; then each adds to its own. -/
def sharing : List (Move 2) :=
  [⟨0, { current := none, operation := .request 0 (.openModule "m"), keep := some "left" }⟩,
    ⟨1, { current := none, operation := .request 1 (.openModule "m"), keep := some "right" }⟩,
    ⟨0, { current := none, operation := .request 0 (.declare none (some "A") (some "left")) }⟩,
    ⟨1, { current := none, operation := .request 1 (.overload none "f" (some "right")) }⟩]

theorem runs_apart_sharing :
    let start := fresh #v[none, none]
    let final := start.run (sharing.map Move.turn)
    let alone := start.run (turnsOf 1 sharing)
    start.made 1 sharing = [1, 3] ∧
    (alone.store.children 0).entries = [("f1", some 1)] ∧
    (final.store.children 1).entries = [("f1", some 3)] ∧
    (alone.store.children 0).Alike (Option.Rel (Stands (start.made 1 sharing)))
      (final.store.children 1) := by
  intro start final alone
  have made : start.made 1 sharing = [1, 3] := by decide +kernel
  refine ⟨made, by decide +kernel, by decide +kernel, ?_⟩
  have apart := runs_apart #v[none, none] sharing ?_ 1
  · refine (apart.2.2.2 0 1 ?_).2
    change Stands (start.made 1 sharing) 0 1
    rw [made]
    rfl
  · intro past move future split
    -- At each of the four turns the label, if any, is bound to an item of this party.
    rcases past with _ | ⟨_, _ | ⟨_, _ | ⟨_, _ | ⟨_, past⟩⟩⟩⟩
    case cons.cons.cons.cons => simp [sharing] at split
    all_goals
      cases split
      exact ⟨by decide, by decide +kernel⟩

end World

end DeclMerge
