import DeclMerge.Proofs.Catalog.Again
import DeclMerge.Proofs.Program.Failing
import DeclMerge.Proofs.Program.Naming
import DeclMerge.Proofs.Text.Numbers

/-!
# What the log says of the registries

The catalog notes what becomes of its registries and nothing else: a module that is made, a key
that is registered, a declaration that is merged. What it notes in one moment is told by
`Opened.Noted` and `Accepted.Noted`, and that it notes nothing else by `records_of_silent`. From
there on the log of a run is the history of every key by itself: it begins with the registration,
and goes on with merges whose counts add up to the shapes that the item carries (`Tallies`).
-/
namespace DeclMerge

namespace Note

/-- The module that a note says was made. -/
def created? : Note → Option String
  | .moduleCreated name => some name
  | _ => none

/-- The key that a note says was registered, or merged under. -/
def key? : Note → Option String
  | .registered key => some key
  | .merged key _ _ => some key
  | _ => none

theorem quoted_inj {left right : String} : quoted left = quoted right ↔ left = right := by
  rw [quoted, quoted, String.append_left_inj, String.append_right_inj]

theorem text_merged_inj {key other : String} {added total more sum : Nat} :
    text (.merged key added total) = text (.merged other more sum) ↔
      key = other ∧ added = more ∧ total = sum := by
  unfold text
  -- Both numbers stand behind a space, so the text is taken apart from its end.
  rw [String.append_left_inj, Text.append_mark_repr_inj ⟨' ', rfl, rfl⟩,
    Text.append_mark_repr_inj ⟨' ', rfl, rfl⟩, String.append_right_inj, quoted_inj, and_assoc]

/-- The notes of the catalog are told apart by their texts. -/
theorem eq_of_text {left right : Note} (own : left.topic = .catalog)
    (own_too : right.topic = .catalog) (same : left.text = right.text) : left = right := by
  -- The first letter tells the kinds apart.
  have begins {text other : String} (same : text = other) :
      text.toList.head? = other.toList.head? := by rw [same]
  cases left with
  | bareName => cases own
  | moduleCreated name =>
    cases right with
    | bareName => cases own_too
    | moduleCreated other =>
      have names := (String.append_right_inj _).mp same
      rw [quoted_inj.mp names]
    | registered | merged => exact absurd (begins same) (by unfold text; simp)
  | registered key =>
    cases right with
    | bareName => cases own_too
    | registered other =>
      have keys := (String.append_right_inj _).mp same
      rw [quoted_inj.mp keys]
    | moduleCreated | merged => exact absurd (begins same) (by unfold text; simp)
  | merged key added total =>
    cases right with
    | bareName => cases own_too
    | merged other more sum =>
      obtain ⟨rfl, rfl, rfl⟩ := text_merged_inj.mp same
      rfl
    | moduleCreated | registered => exact absurd (begins same) (by unfold text; simp)

end Note

theorem Naming.records_eq_nil (naming : Naming) :
    naming.result.notes.filter (·.topic = .catalog) = [] := by
  refine List.filter_eq_nil_iff.mpr fun note member => ?_
  have about : note.topic = .key := naming.isAboutKey_notes note member
  simp [about]

/-- What is noted behind the notes about a key is all that the catalog notes itself. -/
theorem Naming.records_append (naming : Naming) (notes : List Note) :
    (naming.result.notes ++ notes).filter (·.topic = .catalog) =
      notes.filter (·.topic = .catalog) := by
  rw [List.filter_append, records_eq_nil, List.nil_append]

namespace Catalog

def Moment.notes (moment : Moment) : List Note :=
  match moment.step with
  | .request current request => (moment.before.ask current request).notes
  | _ => []

/-- What the catalog notes of its registries, without the notes about keys. -/
def Moment.records (moment : Moment) : List Note := moment.notes.filter (·.topic = .catalog)

def State.log (start : State) (steps : List Step) : List Note :=
  (start.moments steps).flatMap Moment.notes

def State.records (start : State) (steps : List Step) : List Note :=
  (start.log steps).filter (·.topic = .catalog)

theorem State.records_eq (start : State) (steps : List Step) :
    start.records steps = (start.moments steps).flatMap Moment.records := List.filter_flatMap

/-! ### What one moment notes -/

/-- A module is noted when it is made. -/
inductive Opened.Noted (opened : Opened) (before : State) : List Note → Prop where
  | known (found : before.catalog.modules.get? opened.name = some opened.item) :
      Noted opened before []
  | new (unknown : before.catalog.modules.get? opened.name = none) :
      Noted opened before [.moduleCreated opened.name]

/-- A key is noted when it is registered, and a declaration that comes under it later with the
number of shapes that it added and the number of all shapes after it. -/
inductive Accepted.Noted (accepted : Accepted) (before after : State) : List Note → Prop where
  | registered (unknown : before.catalog.declarations.get? accepted.key = none) :
      Noted accepted before after [.registered accepted.key]
  | merged {added : Nat}
      (found : before.catalog.declarations.get? accepted.key = some accepted.item)
      (counted : (before.store.shapes accepted.item).length + added =
        (after.store.shapes accepted.item).length) :
      Noted accepted before after
        [.merged accepted.key added (after.store.shapes accepted.item).length]

/-- What is noted of one key. -/
def recordsOn (key : String) (records : List Note) : List Note := records.filter (·.key? = some key)

variable {before after : State} {notes : List Note} {key : String}

theorem Opened.Noted.recordsOn_eq_nil {opened : Opened} (noted : opened.Noted before notes) :
    recordsOn key notes = [] := by
  cases noted <;> rfl

theorem Accepted.Noted.created_eq_nil {accepted : Accepted}
    (noted : accepted.Noted before after notes) : notes.filterMap Note.created? = [] := by
  cases noted <;> rfl

theorem Accepted.Noted.recordsOn_self {accepted : Accepted}
    (noted : accepted.Noted before after notes) : recordsOn accepted.key notes = notes := by
  cases noted <;> simp [recordsOn, Note.key?]

theorem Accepted.Noted.recordsOn_of_ne {accepted : Accepted}
    (noted : accepted.Noted before after notes) (differs : accepted.key ≠ key) :
    recordsOn key notes = [] := by
  cases noted <;> simp [recordsOn, Note.key?, differs]

theorem State.BindsDeclarations.length_absorb {state : State} (binds : state.BindsDeclarations)
    {key : String} {id : Id} (found : state.catalog.declarations.get? key = some id)
    (more : List Shape) :
    (state.store.shapes id).length + countNovel (state.store.shapes id) more =
      ((state.store.absorb id more).shapes id).length := by
  obtain ⟨_, raw, shapes, content⟩ := binds key id found
  rw [Store.shapes, Store.shapes, Store.content_absorb, if_pos rfl, content]
  exact (length_addNovel shapes more).symm

namespace Moment

theorem noted_of_opened {moment : Moment} {opened : Opened}
    (told : moment.opened? = some opened) : opened.Noted moment.before moment.records := by
  obtain ⟨before, step⟩ := moment
  unfold opened? at told
  split at told
  next current name is =>
    dsimp only at is
    subst is
    have effect := openModule_effect before.catalog before.store current name
    generalize comes : before.catalog.openModule before.store name = outcome at effect
    have asked : before.ask current (.openModule name) = outcome := comes
    simp only [asked] at told
    simp only [records, notes, asked]
    cases effect with
    | made plain => cases plain
    | knownModule known =>
      cases told
      exact .known known
    | newModule unknown =>
      cases told
      exact .new unknown
  · cases told

theorem noted_of_accepted {moment : Moment} {accepted : Accepted}
    (binds : moment.before.BindsDeclarations) (told : moment.accepted? = some accepted) :
    accepted.Noted moment.before moment.after moment.records := by
  obtain ⟨before, step⟩ := moment
  unfold accepted? at told
  split at told
  next current raw name context is =>
    dsimp only at is
    subst is
    have effect := declare_effect before.catalog before.store current raw (some name) context
    generalize comes : before.catalog.declare before.store current raw (some name) context =
      outcome at effect
    have asked : before.ask current (.declare raw (some name) context) = outcome := comes
    have after : before.after (.request current (.declare raw (some name) context)) =
        ⟨outcome.catalog, outcome.store⟩ := by
      rw [← asked]
      rfl
    simp only [asked] at told
    simp only [records, notes, asked, Moment.after, after]
    cases effect with
    | made plain => cases plain
    | unnamed unnamed =>
      simp only [unnamed] at told
      cases told
    | unread named unread =>
      simp only [named] at told
      cases told
    | merged named read known =>
      simp only [named] at told
      cases told
      rw [Naming.records_append]
      exact .merged known (binds.length_absorb known _)
    | registered named read unknown =>
      simp only [named] at told
      cases told
      rw [Naming.records_append]
      exact .registered unknown
  · cases told

/-- Of anything else the catalog notes nothing. -/
theorem records_of_silent {moment : Moment} (unopened : moment.opened? = none)
    (unaccepted : moment.accepted? = none) : moment.records = [] := by
  obtain ⟨before, step⟩ := moment
  cases step with
  | request current request =>
    have effect := before.catalog.perform_effect before.store current request
    generalize comes : before.catalog.perform before.store current request = outcome at effect
    have asked : before.ask current request = outcome := comes
    simp only [records, notes, asked]
    cases effect with
    | newModule =>
      simp only [opened?, asked] at unopened
      cases unopened
    | merged named | registered named =>
      simp only [accepted?, named, asked] at unaccepted
      cases unaccepted
    | unnamed | unread => exact Naming.records_eq_nil _
    | _ => rfl
  | _ => rfl

theorem records_of_error {before : State} {current : Option Session} {request : Request Id}
    {fault : Fault} (failed : (before.ask current request).result = .error fault) :
    Moment.records ⟨before, .request current request⟩ = [] := by
  apply records_of_silent
  · cases request with
    | openModule name =>
      simp only [opened?, failed]
      rfl
    | _ => rfl
  · cases request with
    | declare raw name context =>
      cases name with
      | none => rfl
      | some name =>
        simp only [accepted?, failed]
        split
        · contradiction
        · rfl
    | _ => rfl

end Moment

/-! ### Histories -/

/-- What a run and its moments have in common at first and keep from one moment to the next. -/
theorem State.run_moments (holds : State → List Moment → Prop) (start : State) (steps : List Step)
    (initial : holds start [])
    (passed : ∀ moment ∈ start.moments steps, ∀ past, holds moment.before past →
      holds moment.after (past ++ [moment])) :
    holds (start.run steps) (start.moments steps) := by
  have told := State.run_records some holds start steps initial passed
  rwa [List.filterMap_some] at told

/-- The modules that are noted are those that come to the registry. -/
theorem Moment.keys_modules {moment : Moment} (binds : moment.before.BindsDeclarations) :
    moment.after.catalog.modules.keys =
      moment.before.catalog.modules.keys ++ moment.records.filterMap Note.created? := by
  cases moment.change with
  | opens told unaccepted how =>
    have noted := noted_of_opened told
    generalize moment.after = after at how
    generalize moment.records = records at noted
    cases how with
    | known found =>
      cases noted with
      | known => exact (List.append_nil _).symm
      | new unknown => cases unknown.symm.trans found
    | new unknown next =>
      cases noted with
      | known found => cases unknown.symm.trans found
      | new =>
        rw [Table.keys_set, if_neg]
        · rfl
        · rw [Table.mem_keys_iff, unknown]
          exact Bool.false_ne_true
  | joins unopened told named how =>
    rw [how.modules_eq, (noted_of_accepted binds told).created_eq_nil, List.append_nil]
  | quiet unopened unaccepted how =>
    rw [how.modules, records_of_silent unopened unaccepted]
    exact (List.append_nil _).symm

/-- The history of a key whose item carries `total` shapes: the key is registered, and then every
merge tells how many shapes it added and how many there are. -/
inductive Tallies (key : String) : List Note → Nat → Prop where
  | registered (total : Nat) : Tallies key [.registered key] total
  | merged {records : List Note} {total : Nat} (earlier : Tallies key records total)
      (added : Nat) : Tallies key (records ++ [.merged key added (total + added)]) (total + added)

/-- A key is registered once, and before anything is merged under it. -/
theorem Tallies.begins {key : String} {records : List Note} {total : Nat}
    (tallies : Tallies key records total) :
    ∃ merges, records = .registered key :: merges ∧
      ∀ note ∈ merges, ∃ added total, note = .merged key added total := by
  induction tallies with
  | registered => exact ⟨[], rfl, by simp⟩
  | @merged records total earlier added ih =>
    obtain ⟨merges, rfl, all⟩ := ih
    refine ⟨merges ++ [.merged key added (total + added)], rfl, fun note member => ?_⟩
    rcases List.mem_append.mp member with here | last
    · exact all note here
    · exact ⟨added, total + added, List.mem_singleton.mp last⟩

/-- An item that is there is not the one of a declaration, unless the key is bound to it. -/
theorem Accepted.Joins.item_ne {accepted : Accepted} (how : accepted.Joins before after) {id : Id}
    (older : id < before.store.next)
    (unbound : before.catalog.declarations.get? accepted.key ≠ some id) : accepted.item ≠ id := by
  rintro rfl
  cases how with
  | merged read known => exact unbound known
  | registered read unknown next => exact absurd next (Nat.ne_of_lt older)

/-- What the records on a key say of it, when `calls` declarations were accepted under it. -/
structure KeyLogged (key : String) (state : State) (records : List Note) (calls : Nat) : Prop where
  unbound : state.catalog.declarations.get? key = none → records = []
  bound : ∀ id, state.catalog.declarations.get? key = some id →
    Tallies key records (state.store.shapes id).length
  counted : records.length = calls

namespace KeyLogged

variable {records : List Note} {calls : Nat}

/-- A moment that is not about the key. -/
private theorem aside (hold : KeyLogged key before records calls)
    (same : after.catalog.declarations.get? key = before.catalog.declarations.get? key)
    (kept : ∀ id, before.catalog.declarations.get? key = some id →
      after.store.content id = before.store.content id) :
    KeyLogged key after records calls where
  unbound unknown := hold.unbound (same.symm.trans unknown)
  bound id found := by
    have found_before := same.symm.trans found
    rw [Store.shapes, kept id found_before]
    exact hold.bound id found_before
  counted := hold.counted

/-- A declaration that is accepted under the key. -/
private theorem joins {accepted : Accepted}
    (hold : KeyLogged accepted.key before records calls) (how : accepted.Joins before after)
    (noted : accepted.Noted before after notes) :
    KeyLogged accepted.key after (records ++ notes) (calls + 1) := by
  cases noted with
  | registered unknown =>
    cases how with
    | merged read found => cases unknown.symm.trans found
    | registered read _ next =>
      refine ⟨fun none => ?_, fun id found => ?_, ?_⟩
      · cases (Table.get?_set_self _ _ _).symm.trans none
      · -- Nothing was noted of the key before.
        rw [hold.unbound unknown]
        exact .registered _
      · rw [List.length_append, hold.counted]
        rfl
  | @merged added found counted =>
    cases how with
    | merged read _ =>
      refine ⟨fun none => ?_, fun id bound => ?_, ?_⟩
      · cases none.symm.trans found
      · cases found.symm.trans bound
        rw [← counted]
        exact (hold.bound _ found).merged added
      · rw [List.length_append, hold.counted]
        rfl
    | registered read unknown => cases unknown.symm.trans found

theorem passed {moment : Moment} (untouched : ∀ id shapes, moment.step ≠ .absorb id shapes)
    (binds : moment.before.BindsDeclarations)
    (apart : ∀ other id, moment.before.catalog.declarations.get? key = some id →
      moment.before.catalog.declarations.get? other = some id → key = other)
    (hold : KeyLogged key moment.before records calls) :
    KeyLogged key moment.after (records ++ recordsOn key moment.records)
      (calls + (statementsUnder key moment.accepted?.toList).length) := by
  cases moment.change with
  | opens told unaccepted how =>
    rw [(Moment.noted_of_opened told).recordsOn_eq_nil, unaccepted, List.append_nil]
    refine hold.aside (by rw [how.declarations_eq]) fun id found => ?_
    exact how.content_eq (binds key id found).1
  | @joins accepted unopened told named how =>
    have noted := Moment.noted_of_accepted binds told
    rw [told, Option.toList_some]
    by_cases same : accepted.key = key
    · subst same
      have one : (statementsUnder accepted.key [accepted]).length = 1 := by simp [statementsUnder]
      rw [noted.recordsOn_self, one]
      exact hold.joins how noted
    · have none : statementsUnder key [accepted] = [] := by simp [statementsUnder, same]
      rw [noted.recordsOn_of_ne same, none, List.append_nil]
      refine hold.aside (how.arrives.get?_of_ne same) fun id found => ?_
      rw [Store.content, how.get?_of_ne (how.item_ne (binds key id found).1 fun known => ?_)]
      · rfl
      · exact same (apart accepted.key id found known).symm
  | quiet unopened unaccepted how =>
    rw [Moment.records_of_silent unopened unaccepted, unaccepted]
    change KeyLogged key moment.after (records ++ []) calls
    rw [List.append_nil]
    refine hold.aside (by rw [how.declarations]) fun id found => ?_
    rcases how.contents id (binds key id found).1 with kept | ⟨shapes, step, _⟩
    · exact kept
    · exact absurd step (untouched id shapes)

end KeyLogged

section

variable (session : Option Session) (store : Store) (steps : List Step)

theorem binds_of_mem {moment : Moment}
    (member : moment ∈ (State.fresh session store).moments steps) :
    moment.before.BindsDeclarations := by
  obtain ⟨past, _, _, reached⟩ := State.mem_moments member
  rw [reached]
  exact bindsDeclarations_run session store past

theorem modules_logged :
    ((State.fresh session store).run steps).catalog.modules.keys =
      ((State.fresh session store).records steps).filterMap Note.created? := by
  rw [State.records_eq]
  refine State.run_moments (fun state past => state.catalog.modules.keys =
    (past.flatMap Moment.records).filterMap Note.created?) _ steps rfl
    fun moment member past hold => ?_
  rw [Moment.keys_modules (binds_of_mem session store steps member), hold, List.flatMap_append,
    List.filterMap_append, List.flatMap_singleton]

theorem key_logged (untouched : ∀ id shapes, .absorb id shapes ∉ steps) (key : String) :
    KeyLogged key ((State.fresh session store).run steps)
      (recordsOn key ((State.fresh session store).records steps))
      (statementsUnder key ((State.fresh session store).accepted steps)).length := by
  rw [State.records_eq]
  refine State.run_moments (fun state past => KeyLogged key state
    (recordsOn key (past.flatMap Moment.records))
    (statementsUnder key (past.filterMap Moment.accepted?)).length) _ steps ?_
    fun moment member past hold => ?_
  · exact ⟨fun _ => rfl, fun id found => (by cases found), rfl⟩
  · obtain ⟨before, _, split, reached⟩ := State.mem_moments member
    have registers := declarations_hold session store before
    rw [← reached] at registers
    have passed := hold.passed (fun id shapes step => untouched id shapes (by simp [split, step]))
      (binds_of_mem session store steps member) (registers.apart key)
    have told : [moment].filterMap Moment.accepted? = moment.accepted?.toList := by
      cases here : moment.accepted? <;> simp [here]
    rwa [recordsOn, statementsUnder, List.flatMap_append, List.filterMap_append, List.filter_append,
      List.filter_append, List.map_append, List.length_append, List.flatMap_singleton, told]

end

/-- What the log of the run `steps` from `start` says. -/
structure LogAccounts (start : State) (steps : List Step) : Prop where
  -- The modules are noted in the order in which they were made, and each of them once.
  modules : (start.records steps).filterMap Note.created? =
    (start.run steps).catalog.modules.keys
  modules_once : ((start.records steps).filterMap Note.created?).Nodup
  modules_counted : ((start.records steps).filterMap Note.created?).length =
    (start.run steps).catalog.modules.size
  -- Nothing is noted of a key that is not registered.
  unregistered : ∀ key, (start.run steps).catalog.declarations.get? key = none →
    recordsOn key (start.records steps) = []
  -- A registered key is noted as such once, and then with one merge for every later declaration
  -- that was accepted under it; the merges tell how its shapes became as many as they are.
  registered : ∀ key id, (start.run steps).catalog.declarations.get? key = some id →
    ∃ merges, recordsOn key (start.records steps) = .registered key :: merges ∧
      (∀ note ∈ merges, ∃ added total, note = .merged key added total) ∧
      merges.length + 1 = (statementsUnder key (start.accepted steps)).length ∧
      Tallies key (.registered key :: merges) ((start.run steps).store.shapes id).length
  -- Every record comes of the moment that it speaks of, with the counts before and after it.
  opened : ∀ moment ∈ start.moments steps, ∀ opened, moment.opened? = some opened →
    opened.Noted moment.before moment.records
  accepted : ∀ moment ∈ start.moments steps, ∀ accepted, moment.accepted? = some accepted →
    accepted.Noted moment.before moment.after moment.records
  silent : ∀ moment ∈ start.moments steps, moment.opened? = none → moment.accepted? = none →
    moment.records = []
  failed : ∀ moment ∈ start.moments steps, ∀ current request fault,
    moment.step = .request current request →
    (moment.before.ask current request).result = .error fault → moment.records = []
  -- Different records have different texts.
  texts : ∀ note ∈ start.records steps, ∀ other ∈ start.records steps,
    note.text = other.text → note = other

/-- In a run in which callers give no shapes to items themselves, the log accounts for the
registries. -/
theorem log_accounts (session : Option Session) (store : Store) (steps : List Step)
    (untouched : ∀ id shapes, .absorb id shapes ∉ steps) :
    LogAccounts (State.fresh session store) steps := by
  have modules := modules_logged session store steps
  have own : ∀ note ∈ (State.fresh session store).records steps, note.topic = .catalog :=
    fun note member => of_decide_eq_true (List.mem_filter.mp member).2
  exact {
    modules := modules.symm
    modules_once := by
      rw [← modules]
      exact Table.nodup_keys _
    modules_counted := by rw [← modules, ← Table.size_eq_length_keys]
    unregistered := fun key => (key_logged session store steps untouched key).unbound
    registered := fun key id found => by
      have logged := key_logged session store steps untouched key
      have tallies := logged.bound id found
      obtain ⟨merges, begins, all⟩ := tallies.begins
      rw [begins] at tallies
      refine ⟨merges, begins, all, ?_, tallies⟩
      rw [← logged.counted, begins, List.length_cons]
    opened := fun _ _ _ => Moment.noted_of_opened
    accepted := fun moment member _ =>
      Moment.noted_of_accepted (binds_of_mem session store steps member)
    silent := fun _ _ => Moment.records_of_silent
    failed := fun moment _ current request fault is failed => by
      obtain ⟨before, step⟩ := moment
      subst is
      exact Moment.records_of_error failed
    texts := fun note member other also =>
      Note.eq_of_text (own note member) (own other also) }

/-- Both halves of `A`, twice the first, among a module that is asked for twice, a declaration in
a namespace that cannot be read, and one without a name. -/
def logging : List Step := [
  .request none (.openNamespace "N"),
  .request none (.openModule "m"),
  .request none (.declare (some firstHalf) (some "A") none),
  .request none (.openModule "m"),
  .request none (.declare (some World.garbledA) (some "A") (some 0)),
  .request none (.declare (some firstHalf) (some "A") none),
  .request none (.declare (some secondHalf) none none),
  .request none (.declare (some secondHalf) (some "A") none)]

theorem log_accounts_logging :
    let start := State.fresh none ∅
    start.log logging = [.moduleCreated "m", .registered "A", .bareName .noSession "A" "N",
      .merged "A" 0 2, .merged "A" 1 3] ∧
    (start.records logging).filterMap Note.created? = ["m"] ∧
    recordsOn "N.A" (start.records logging) = [] ∧
    ∃ merges, recordsOn "A" (start.records logging) = .registered "A" :: merges ∧
      merges.length + 1 = 3 ∧ Tallies "A" (.registered "A" :: merges) 3 := by
  intro start
  have untouched : ∀ id shapes, Step.absorb id shapes ∉ logging := by simp [logging]
  have accounts := log_accounts none ∅ logging untouched
  have modules : (start.run logging).catalog.modules.keys = ["m"] := by decide +kernel
  have unknown : (start.run logging).catalog.declarations.get? "N.A" = none := by decide +kernel
  have known : (start.run logging).catalog.declarations.get? "A" = some 2 := by decide +kernel
  have calls : (statementsUnder "A" (start.accepted logging)).length = 3 := by decide +kernel
  have total : ((start.run logging).store.shapes 2).length = 3 := by decide +kernel
  obtain ⟨merges, begins, _, counted, tallies⟩ := accounts.registered "A" 2 known
  rw [calls] at counted
  rw [total] at tallies
  exact ⟨by decide +kernel, accounts.modules.trans modules, accounts.unregistered "N.A" unknown,
    merges, begins, counted, tallies⟩

end Catalog

end DeclMerge
