import DeclMerge.Proofs.Catalog.Merging

/-!
# Declarations in any order

Which declarations a catalog accepts under a key depends on the declarations alone, not on what
came before them (`statementsUnder_declarings`). So the order of requests shows in the order of
shapes and nowhere else, and a request that was made before changes nothing at all.
-/
namespace DeclMerge

/-- The key under which a catalog accepts a declaration, if it accepts it. -/
def Naming.accepted? (naming : Naming) : Option String :=
  match naming.key, shapesOf naming.raw with
  | .ok key, .ok _ => some key
  | _, _ => none

theorem Naming.accepted?_eq_some_iff (naming : Naming) (key : String) :
    naming.accepted? = some key ↔
      naming.key = .ok key ∧ ∃ shapes, shapesOf naming.raw = .ok shapes := by
  unfold accepted?
  split
  next here shapes named read => simp [named, read]
  next refused =>
    refine iff_of_false (fun told => by cases told) ?_
    rintro ⟨named, shapes, read⟩
    exact refused key shapes named read

/-- The statements of the declarations that are accepted under a key. -/
def acceptedUnder (key : String) (namings : List Naming) : List (Option Node) :=
  (namings.filter (·.accepted? = some key)).map Naming.raw

theorem mem_acceptedUnder_iff (key : String) (namings : List Naming) (raw : Option Node) :
    raw ∈ acceptedUnder key namings ↔
      ∃ naming ∈ namings, naming.accepted? = some key ∧ naming.raw = raw := by
  simp [acceptedUnder, and_assoc]

namespace Catalog

/-- A request for a declaration with a name. -/
structure Declaring where
  current : Option Session
  raw : Option Node
  name : String
  context : Option Id

namespace Declaring

def step (declaring : Declaring) : Step :=
  .request declaring.current (.declare declaring.raw (some declaring.name) declaring.context)

def naming (declaring : Declaring) (state : State) : Naming :=
  state.catalog.naming state.store declaring.current declaring.raw declaring.name declaring.context

end Declaring

/-- The content under a key, as far as the key is known. -/
def State.declared (state : State) (key : String) : Option Content :=
  (state.catalog.declarations.get? key).map state.store.content

theorem State.declared_eq_none_iff (state : State) (key : String) :
    state.declared key = none ↔ key ∉ state.catalog.declarations.keys := by
  rw [declared, Option.map_eq_none_iff, Table.mem_keys_iff, Option.not_isSome_iff_eq_none]

/-- A declaration is refused and leaves everything as it was, or it joins the key that it reads. -/
theorem after_declaring (state : State) (declaring : Declaring) :
    ((declaring.naming state).accepted? = none ∧ Moment.accepted? ⟨state, declaring.step⟩ = none ∧
      state.after declaring.step = state) ∨
    ∃ accepted : Accepted, accepted.naming = declaring.naming state ∧
      (declaring.naming state).accepted? = some accepted.key ∧
      Moment.accepted? ⟨state, declaring.step⟩ = some accepted ∧
      accepted.Joins state (state.after declaring.step) := by
  obtain ⟨current, raw, name, context⟩ := declaring
  have effect := state.catalog.declare_effect state.store current raw (some name) context
  generalize comes : state.catalog.declare state.store current raw (some name) context = outcome
    at effect
  have asked : state.ask current (.declare raw (some name) context) = outcome := comes
  have after : state.after (.request current (.declare raw (some name) context)) =
      ⟨outcome.catalog, outcome.store⟩ := by
    rw [← comes]
    rfl
  simp only [Declaring.step, Declaring.naming, Naming.accepted?, Moment.accepted?, asked, after]
  cases effect with
  | made plain => cases plain
  | unnamed unnamed => exact .inl ⟨by rw [unnamed], by rw [unnamed], rfl⟩
  | unread named unread =>
    refine .inl ⟨?_, by rw [named], rfl⟩
    have unread : shapesOf (state.catalog.naming state.store current raw name context).raw = _ :=
      unread
    rw [named, unread]
  | @merged _ _ key _ shapes id named read known =>
    refine .inr ⟨⟨_, key, id⟩, rfl, ?_, by rw [named]; rfl, .merged read known⟩
    have read : shapesOf (state.catalog.naming state.store current raw name context).raw = _ := read
    rw [named, read]
  | @registered _ _ key _ shapes named read unknown =>
    refine .inr ⟨⟨_, key, state.store.next⟩, rfl, ?_, by rw [named]; rfl, ?_⟩
    · have read : shapesOf (state.catalog.naming state.store current raw name context).raw = _ :=
        read
      rw [named, read]
    · exact .registered read unknown rfl

theorem Accepted.Joins.scopeAt_eq {accepted : Accepted} {before after : State}
    (how : accepted.Joins before after) (context : Option Id) :
    after.store.scopeAt context = before.store.scopeAt context := by
  cases how with
  | merged => exact before.store.scopeAt_absorb _ _ _
  | registered => exact before.store.scopeAt_add_ofShapes _ _ _

/-- What a declaration is does not change while others are declared. -/
theorem naming_after (state : State) (declaring other : Declaring) :
    other.naming (state.after declaring.step) = other.naming state := by
  have session : (state.after declaring.step).catalog.session = state.catalog.session :=
    (own_table state.catalog state.store declaring.current _).1
  have scope : (state.after declaring.step).store.scopeAt other.context =
      state.store.scopeAt other.context := by
    rcases after_declaring state declaring with ⟨_, _, unchanged⟩ | ⟨accepted, _, _, _, joins⟩
    · rw [unchanged]
    · exact joins.scopeAt_eq other.context
  rw [Declaring.naming, naming, effective, session, scope]
  rfl

theorem naming_run (state : State) (declarings : List Declaring) (other : Declaring) :
    other.naming (state.run (declarings.map Declaring.step)) = other.naming state := by
  induction declarings generalizing state with
  | nil => rfl
  | cons declaring rest ih => rw [List.map_cons, State.run_cons, ih, naming_after]

/-- The statements under a key are those of the declarations that are accepted under it. -/
theorem statementsUnder_declarings (state : State) (declarings : List Declaring) (key : String) :
    statementsUnder key (state.accepted (declarings.map Declaring.step)) =
      acceptedUnder key (declarings.map (·.naming state)) := by
  induction declarings generalizing state with
  | nil => rfl
  | cons declaring rest ih =>
    have later := ih (state.after declaring.step)
    simp only [naming_after, acceptedUnder] at later
    rw [List.map_cons, List.map_cons, State.accepted, State.moments, acceptedUnder]
    rcases after_declaring state declaring with ⟨refused, untold, _⟩ | ⟨accepted, is, read, told, _⟩
    · rw [List.filterMap_cons_none untold, List.filter_cons_of_neg (by simp [refused])]
      exact later
    · rw [List.filterMap_cons_some told, List.filter_cons, read, ← is]
      unfold statementsUnder at later ⊢
      by_cases same : accepted.key = key
      · rw [List.filter_cons_of_pos (by simp [same]), if_pos (by simp [same]), List.map_cons,
          List.map_cons, ← later]
        rfl
      · rw [List.filter_cons_of_neg (by simp [same]), if_neg (by simp [same]), ← later]
        rfl

/-! ### What a run of declarations leaves under a key -/

theorem Merges.unique {raws : List (Option Node)} {content other : Content}
    (merges : Merges raws content) (again : Merges raws other) : content = other := by
  obtain ⟨contributed, all, first, head, rfl⟩ := merges
  obtain ⟨contributed', all', first', head', rfl⟩ := again
  have shapes : contributed = contributed' :=
    List.map_injective_iff.mpr (fun _ _ => Except.ok.inj) (all.symm.trans all')
  rw [shapes, Option.mem_unique head head']

section

variable (session : Option Session) (store : Store) (declarings : List Declaring) (key : String)

theorem declarings_hold :
    let start := State.fresh session store
    let final := start.run (declarings.map Declaring.step)
    let raws := acceptedUnder key (declarings.map (·.naming start))
    (final.declared key = none ↔ raws = []) ∧
      ∀ content ∈ final.declared key, Merges raws content := by
  intro start final raws
  have untouched : ∀ id shapes, Step.absorb id shapes ∉ declarings.map Declaring.step := by
    simp [Declaring.step]
  have hold := shapes_hold session store _ untouched
  have statements : statementsUnder key (start.accepted (declarings.map Declaring.step)) = raws :=
    statementsUnder_declarings start declarings key
  refine ⟨?_, fun content found => ?_⟩
  · rw [State.declared, Option.map_eq_none_iff, hold.registers.get?_eq_none_iff, List.map_map,
      ← statements]
    exact (statementsUnder_eq_nil_iff key _).symm
  · obtain ⟨id, bound, rfl⟩ := Option.map_eq_some_iff.mp found
    rw [← statements]
    exact hold.merged key id bound

/-- A declaration that was made before changes nothing. -/
theorem after_again {declaring : Declaring}
    (old : declaring.naming (State.fresh session store) ∈
      declarings.map (·.naming (State.fresh session store))) :
    let final := (State.fresh session store).run (declarings.map Declaring.step)
    final.after declaring.step = final := by
  intro final
  rcases after_declaring final declaring with ⟨_, _, unchanged⟩ | ⟨accepted, is, reads, _, joins⟩
  · exact unchanged
  -- It was accepted before, so its statement is among those of the key.
  have among : accepted.naming.raw ∈
      acceptedUnder accepted.key (declarings.map (·.naming (State.fresh session store))) := by
    have same : declaring.naming final = declaring.naming (State.fresh session store) :=
      naming_run _ declarings declaring
    rw [mem_acceptedUnder_iff, is]
    rw [same] at reads ⊢
    exact ⟨_, old, reads, rfl⟩
  obtain ⟨unknown_iff, merges⟩ := declarings_hold session store declarings accepted.key
  generalize reached : final.after declaring.step = after at joins
  cases joins with
  | registered read unknown =>
    have none_before := unknown_iff.mp (Option.map_eq_none_iff.mpr unknown)
    rw [none_before] at among
    cases among
  | @merged shapes read known =>
    have carried := (merges _ (Option.map_eq_some_iff.mpr ⟨_, known, rfl⟩)).shapes_iff.2
    have has : ∀ shape ∈ shapes, shape ∈ final.store.shapes accepted.item := fun shape member =>
      (carried shape).mpr ⟨_, among, shapes, read, member⟩
    rw [final.store.absorb_of_subset _ has]

theorem run_again (again : List Declaring)
    (old : ∀ declaring ∈ again, declaring.naming (State.fresh session store) ∈
      declarings.map (·.naming (State.fresh session store))) :
    (State.fresh session store).run ((declarings ++ again).map Declaring.step) =
      (State.fresh session store).run (declarings.map Declaring.step) := by
  rw [List.map_append, State.run_append]
  induction again with
  | nil => rfl
  | cons declaring rest ih =>
    have first := after_again session store declarings (old declaring List.mem_cons_self)
    rw [List.map_cons, State.run_cons, first]
    exact ih fun later member => old later (List.mem_cons_of_mem _ member)

/-- What stands under a key is decided by the statements that are accepted under it. -/
theorem declared_congr (other : List Declaring)
    (same : acceptedUnder key (declarings.map (·.naming (State.fresh session store))) =
      acceptedUnder key (other.map (·.naming (State.fresh session store)))) :
    ((State.fresh session store).run (declarings.map Declaring.step)).declared key =
      ((State.fresh session store).run (other.map Declaring.step)).declared key := by
  obtain ⟨unknown, merges⟩ := declarings_hold session store declarings key
  obtain ⟨unknown', merges'⟩ := declarings_hold session store other key
  rw [← same] at unknown' merges'
  cases left : ((State.fresh session store).run (declarings.map Declaring.step)).declared key with
  | none => exact (unknown'.mpr (unknown.mp left)).symm
  | some content =>
    cases right : ((State.fresh session store).run (other.map Declaring.step)).declared key with
    | none =>
      rw [unknown.mpr (unknown'.mp right)] at left
      cases left
    | some content' => rw [(merges content left).unique (merges' content' right)]

end

theorem acceptedUnder_swap (key : String) (past future : List Naming) {here there : Naming}
    (apart : ∀ key, here.key = .ok key → there.key ≠ .ok key) :
    acceptedUnder key (past ++ there :: here :: future) =
      acceptedUnder key (past ++ here :: there :: future) := by
  unfold acceptedUnder
  rw [List.filter_append, List.filter_append]
  congr 2
  by_cases first : here.accepted? = some key
  · have second : there.accepted? ≠ some key := by
      intro second
      have named := ((here.accepted?_eq_some_iff key).mp first).1
      exact apart key named ((there.accepted?_eq_some_iff key).mp second).1
    simp [first, second]
  · simp [List.filter_cons, first]

/-! ### Main result -/

/-- Runs with the same declarations, in whatever order and however often each, know the same keys
and carry the same shapes under each. Within one run, making declarations again changes nothing,
and two neighbours of different keys may change places. -/
theorem declarations_in_any_order (session other : Option Session) (store rest : Store)
    (first second : List Declaring)
    (same : ∀ naming, naming ∈ first.map (·.naming (State.fresh session store)) ↔
      naming ∈ second.map (·.naming (State.fresh other rest))) :
    let start := State.fresh session store
    let left := start.run (first.map Declaring.step)
    let right := (State.fresh other rest).run (second.map Declaring.step)
    (∀ key, key ∈ left.catalog.declarations.keys ↔ key ∈ right.catalog.declarations.keys) ∧
    (∀ key id item, left.catalog.declarations.get? key = some id →
      right.catalog.declarations.get? key = some item →
      (left.store.shapes id).Perm (right.store.shapes item)) ∧
    (∀ again : List Declaring,
      (∀ declaring ∈ again, declaring.naming start ∈ first.map (·.naming start)) →
      start.run ((first ++ again).map Declaring.step) = left) ∧
    ∀ past here there future, first = past ++ here :: there :: future →
      (∀ key, (here.naming start).key = .ok key → (there.naming start).key ≠ .ok key) →
      ∀ key, (start.run ((past ++ there :: here :: future).map Declaring.step)).declared key =
        left.declared key := by
  intro start left right
  have statements (key : String) (raw : Option Node) :
      raw ∈ acceptedUnder key (first.map (·.naming start)) ↔
        raw ∈ acceptedUnder key (second.map (·.naming (State.fresh other rest))) := by
    simp only [mem_acceptedUnder_iff, start, same]
  refine ⟨fun key => ?_, fun key id item bound bound' => ?_, ?_, ?_⟩
  · have unknown := (declarings_hold session store first key).1
    have unknown' := (declarings_hold other rest second key).1
    rw [State.declared_eq_none_iff, List.eq_nil_iff_forall_not_mem] at unknown unknown'
    rw [← not_iff_not, unknown, unknown']
    simp only [statements, start]
  · have merges := (declarings_hold session store first key).2 _
      (Option.map_eq_some_iff.mpr ⟨id, bound, rfl⟩)
    have merges' := (declarings_hold other rest second key).2 _
      (Option.map_eq_some_iff.mpr ⟨item, bound', rfl⟩)
    obtain ⟨apart, carried⟩ := merges.shapes_iff
    obtain ⟨apart', carried'⟩ := merges'.shapes_iff
    refine (List.perm_ext_iff_of_nodup apart apart').mpr fun shape => ?_
    rw [carried, carried']
    simp only [statements, start]
  · exact run_again session store first
  · rintro past here there future rfl apart key
    apply declared_congr
    simp only [List.map_append, List.map_cons]
    exact acceptedUnder_swap key _ _ apart

/-- The halves of `A`, and `B`. -/
def inOrder : List Declaring :=
  [⟨none, some firstHalf, "A", none⟩, ⟨none, some secondHalf, "A", none⟩, ⟨none, none, "B", none⟩]

/-- The same with the last two in each other's place. -/
def swapped : List Declaring :=
  [⟨none, some firstHalf, "A", none⟩, ⟨none, none, "B", none⟩, ⟨none, some secondHalf, "A", none⟩]

/-- The same backwards, and once more the second half. -/
def backwards : List Declaring := swapped.reverse ++ [⟨none, some secondHalf, "A", none⟩]

theorem declarations_in_any_order_backwards :
    let start := State.fresh none ∅
    let left := start.run (inOrder.map Declaring.step)
    let right := start.run (backwards.map Declaring.step)
    left.catalog.declarations.keys = ["A", "B"] ∧ right.catalog.declarations.keys = ["A", "B"] ∧
    left.store.shapes 0 ≠ right.store.shapes 0 ∧
    (left.store.shapes 0).Perm (right.store.shapes 0) ∧
    (start.run (swapped.map Declaring.step)).declared "A" = left.declared "A" := by
  intro start left right
  have same : ∀ naming, naming ∈ inOrder.map (·.naming start) ↔
      naming ∈ backwards.map (·.naming start) := by
    intro naming
    simp only [inOrder, backwards, swapped, List.reverse_cons, List.reverse_nil, List.nil_append,
      List.cons_append, List.map_cons, List.map_nil, List.mem_cons, List.not_mem_nil]
    tauto
  obtain ⟨_, perm, _, swaps⟩ := declarations_in_any_order none none ∅ ∅ inOrder backwards same
  have bound : left.catalog.declarations.get? "A" = some 0 := by decide +kernel
  have bound' : right.catalog.declarations.get? "A" = some 0 := by decide +kernel
  refine ⟨by decide +kernel, by decide +kernel, by decide +kernel, perm "A" 0 0 bound bound', ?_⟩
  refine swaps [⟨none, some firstHalf, "A", none⟩] _ _ [] rfl (fun key named => ?_) "A"
  -- The keys are the names, so they differ.
  cases named
  intro equal
  exact absurd (Except.ok.inj equal) (by decide)

end Catalog

end DeclMerge
