import DeclMerge.Proofs.Catalog.Identity
import DeclMerge.Proofs.Novel

/-!
# What a merged declaration carries

The item of a key is the work of the declarations that were accepted under the key, and of no
other request: it stands for the statement of the first of them and carries the first occurrence
of every shape that one of them contributed, in the order of the requests. `merged_shapes` says so
of every run in which callers give no shapes to items themselves.
-/
namespace DeclMerge.Catalog

/-- The statements that were accepted under a key, in order. -/
def statementsUnder (key : String) (told : List Accepted) : List (Option Node) :=
  (told.filter (·.key = key)).map (·.naming.raw)

theorem statementsUnder_concat (key : String) (told : List Accepted) (accepted : Accepted) :
    statementsUnder key (told ++ [accepted]) =
      if accepted.key = key then statementsUnder key told ++ [accepted.naming.raw]
      else statementsUnder key told := by
  rw [statementsUnder, statementsUnder, List.filter_append]
  split
  next same => simp [same]
  next differs => simp [differs]

theorem statementsUnder_eq_nil_iff (key : String) (told : List Accepted) :
    statementsUnder key told = [] ↔ key ∉ told.map Accepted.key := by
  simp [statementsUnder, List.filter_eq_nil_iff]

/-- The content that these statements make when they are merged in this order. -/
def Merges (raws : List (Option Node)) (content : Content) : Prop :=
  ∃ contributed : List (List Shape), raws.map shapesOf = contributed.map .ok ∧
    ∃ first ∈ raws.head?, content = .declared first contributed.flatten.eraseDups

namespace Merges

theorem single {raw : Option Node} {shapes : List Shape} (read : shapesOf raw = .ok shapes) :
    Merges [raw] (.ofShapes raw shapes) := by
  refine ⟨[shapes], by simp [read], raw, rfl, ?_⟩
  rw [Content.ofShapes, addNovel_nil_eq, List.flatten_singleton]

theorem concat {raws : List (Option Node)} {content : Content} {raw : Option Node}
    {shapes : List Shape} (merges : Merges raws content) (read : shapesOf raw = .ok shapes) :
    Merges (raws ++ [raw]) (content.absorb shapes) := by
  obtain ⟨contributed, all, first, head, rfl⟩ := merges
  refine ⟨contributed ++ [shapes], by simp [all, read], first, ?_, ?_⟩
  · rw [List.head?_append, head]
    rfl
  · rw [Content.absorb, addNovel_eraseDups, List.flatten_append, List.flatten_singleton]

/-- A merged content carries each shape once, and exactly those that a statement contributed. -/
theorem shapes_iff {raws : List (Option Node)} {content : Content} (merges : Merges raws content) :
    content.shapes.Nodup ∧ ∀ shape, shape ∈ content.shapes ↔
      ∃ raw ∈ raws, ∃ shapes, shapesOf raw = .ok shapes ∧ shape ∈ shapes := by
  obtain ⟨contributed, all, first, head, rfl⟩ := merges
  refine ⟨nodup_eraseDups _, fun shape => ?_⟩
  have known (shapes : List Shape) :
      shapes ∈ contributed ↔ ∃ raw ∈ raws, shapesOf raw = .ok shapes := by
    have member : Except.ok shapes ∈ raws.map shapesOf ↔ shapes ∈ contributed := by
      rw [all]
      simp
    rw [← member, List.mem_map]
  simp only [Content.shapes, List.mem_eraseDups, List.mem_flatten, known]
  constructor
  · rintro ⟨shapes, ⟨raw, here, read⟩, member⟩
    exact ⟨raw, here, shapes, read, member⟩
  · rintro ⟨raw, here, shapes, read, member⟩
    exact ⟨shapes, ⟨raw, here, read⟩, member⟩

end Merges

/-- What holds of the declaration registry and its items after these declarations were accepted. -/
structure ShapesHold (state : State) (told : List Accepted) : Prop where
  registers : DeclarationsHold state told
  merged : ∀ key id, state.catalog.declarations.get? key = some id →
    Merges (statementsUnder key told) (state.store.content id)

namespace ShapesHold

variable {before after : State} {told : List Accepted}

private theorem joins {accepted : Accepted} (hold : ShapesHold before told)
    (how : accepted.Joins before after) :
    ∀ key id, after.catalog.declarations.get? key = some id →
      Merges (statementsUnder key (told ++ [accepted])) (after.store.content id) := by
  intro key id found
  rw [statementsUnder_concat]
  cases how with
  | merged read known =>
    rw [Store.content_absorb]
    by_cases same : accepted.key = key
    · subst same
      have item : accepted.item = id := Option.some.inj (known.symm.trans found)
      rw [if_pos rfl, if_pos item]
      exact (hold.merged _ id found).concat read
    · have item : accepted.item ≠ id := by
        rintro rfl
        exact same (hold.registers.apart _ key _ known found)
      rw [if_neg same, if_neg item]
      exact hold.merged key id found
  | registered read unknown next =>
    rw [Table.get?_set] at found
    split at found
    next same =>
      -- The key is met for the first time, so no statement came before this one.
      have none_before : statementsUnder key told = [] := by
        rw [statementsUnder_eq_nil_iff]
        have absent := (hold.registers.get?_eq_none_iff accepted.key).mp unknown
        rwa [List.map_map, same] at absent
      cases found
      rw [if_pos same, none_before, next, Store.content_add_next]
      exact .single read
    next differs =>
      have older := hold.registers.older key id found
      rw [if_neg differs, Store.content_add_of_ne _ _ (Nat.ne_of_lt older)]
      exact hold.merged key id found

theorem passed {moment : Moment} (untouched : ∀ id shapes, moment.step ≠ .absorb id shapes)
    (hold : ShapesHold moment.before told) :
    ShapesHold moment.after (told ++ moment.accepted?.toList) := by
  refine ⟨hold.registers.passed, ?_⟩
  cases moment.change with
  | opens here unaccepted how =>
    rw [unaccepted, Option.toList_none, List.append_nil, how.declarations_eq]
    intro key id found
    rw [how.content_eq (hold.registers.older key id found)]
    exact hold.merged key id found
  | joins unopened here named how =>
    rw [here]
    exact hold.joins how
  | quiet unopened unaccepted how =>
    rw [unaccepted, Option.toList_none, List.append_nil, how.declarations]
    intro key id found
    rcases how.contents id (hold.registers.older key id found) with same | ⟨shapes, step, _⟩
    · rw [same]
      exact hold.merged key id found
    · exact absurd step (untouched id shapes)

end ShapesHold

theorem shapes_hold (session : Option Session) (store : Store) (steps : List Step)
    (untouched : ∀ id shapes, .absorb id shapes ∉ steps) :
    ShapesHold ((State.fresh session store).run steps)
      ((State.fresh session store).accepted steps) := by
  refine State.run_records Moment.accepted? _ _ steps ⟨.empty _, ?_⟩ fun moment member _ hold => ?_
  · intro key id found
    cases found
  · refine hold.passed fun id shapes here => ?_
    obtain ⟨past, future, split, _⟩ := State.mem_moments member
    exact untouched id shapes (by simp [split, here])

/-- In a run in which callers give no shapes to items themselves, a key is bound as soon as one
statement was accepted under it; and then its item is the merge of all of them. -/
theorem merged_shapes (session : Option Session) (store : Store) (steps : List Step)
    (untouched : ∀ id shapes, .absorb id shapes ∉ steps) (key : String) :
    let start := State.fresh session store
    let raws := statementsUnder key (start.accepted steps)
    let final := start.run steps
    (final.catalog.declarations.get? key = none ↔ raws = []) ∧
    ∀ first ∈ raws.head?, ∃ id, ∃ contributed : List (List Shape),
      final.catalog.declarations.get? key = some id ∧
      raws.map shapesOf = contributed.map .ok ∧
      final.store.content id = .declared first contributed.flatten.eraseDups ∧
      (final.store.shapes id).Nodup ∧
      ∀ shape, shape ∈ final.store.shapes id ↔
        ∃ raw ∈ raws, ∃ shapes, shapesOf raw = .ok shapes ∧ shape ∈ shapes := by
  intro start raws final
  have hold : ShapesHold final (start.accepted steps) := shapes_hold session store steps untouched
  have unbound : final.catalog.declarations.get? key = none ↔ raws = [] := by
    rw [hold.registers.get?_eq_none_iff, List.map_map]
    exact (statementsUnder_eq_nil_iff key _).symm
  refine ⟨unbound, fun first head => ?_⟩
  cases found : final.catalog.declarations.get? key with
  | none =>
    rw [unbound.mp found] at head
    cases head
  | some id =>
    have merges : Merges raws (final.store.content id) := hold.merged key id found
    have ⟨apart, members⟩ := merges.shapes_iff
    obtain ⟨contributed, all, leader, leads, content⟩ := merges
    rw [Option.mem_unique leads head] at content
    exact ⟨id, contributed, rfl, all, content, apart, members⟩

/-- `interface A { x: a; y: b }`, and later in the same file `interface A { y: b; z: c }`. -/
def reopened : Tree where
  file := 0
  source := "interface A { x: a; y: b } interface A { y: b; z: c }".toUTF8.toList
  rows := #[
    ⟨"program", none, none, true, some ⟨0, 53⟩⟩,
    ⟨"interface_declaration", some 0, none, true, some ⟨0, 26⟩⟩,
    ⟨"interface_body", some 1, some "body", true, some ⟨12, 26⟩⟩,
    ⟨"property_signature", some 2, none, true, some ⟨14, 18⟩⟩,
    ⟨"property_identifier", some 3, some "name", true, some ⟨14, 15⟩⟩,
    ⟨"property_signature", some 2, none, true, some ⟨20, 24⟩⟩,
    ⟨"property_identifier", some 5, some "name", true, some ⟨20, 21⟩⟩,
    ⟨"interface_declaration", some 0, none, true, some ⟨27, 53⟩⟩,
    ⟨"interface_body", some 7, some "body", true, some ⟨39, 53⟩⟩,
    ⟨"property_signature", some 8, none, true, some ⟨41, 45⟩⟩,
    ⟨"property_identifier", some 9, some "name", true, some ⟨41, 42⟩⟩,
    ⟨"property_signature", some 8, none, true, some ⟨47, 51⟩⟩,
    ⟨"property_identifier", some 11, some "name", true, some ⟨47, 48⟩⟩]

def firstHalf : Node := ⟨reopened, 1, by decide⟩

def secondHalf : Node := ⟨reopened, 7, by decide⟩

/-- The two halves of `A`, among requests for another key and for no key. -/
def reopening : List Step := [
  .request none (.declare (some firstHalf) (some "A") none),
  .request none (.openModule "m"),
  .request none (.declare (some firstHalf) (some "A") (some 1)),
  .request none (.declare (some secondHalf) none none),
  .request none (.declare (some secondHalf) (some "A") none)]

def bothHalves : List Shape :=
  [⟨"property_signature", some "x", "x: a"⟩, ⟨"property_signature", some "y", "y: b"⟩,
    ⟨"property_signature", some "z", "z: c"⟩]

theorem merged_shapes_reopened :
    let final := (State.fresh none ∅).run reopening
    (∀ id shapes, .absorb id shapes ∉ reopening) ∧
    ∃ first id, first.map Node.index = some 1 ∧
      final.catalog.declarations.get? "A" = some id ∧
      final.store.content id = .declared first bothHalves := by
  intro final
  have untouched : ∀ id shapes, Step.absorb id shapes ∉ reopening := by simp [reopening]
  have bound := (merged_shapes none ∅ reopening untouched "A").2
  have head : (statementsUnder "A" ((State.fresh none ∅).accepted reopening)).head?.map
      (·.map Node.index) = some (some 1) := by decide +kernel
  obtain ⟨first, leads, index⟩ := Option.map_eq_some_iff.mp head
  obtain ⟨id, contributed, found, _, content, _⟩ := bound first leads
  have item : final.catalog.declarations.get? "A" = some 0 := by decide +kernel
  cases item.symm.trans found
  have shapes : contributed.flatten.eraseDups = bothHalves := by
    have carried : final.store.shapes 0 = bothHalves := by decide +kernel
    rwa [Store.shapes, content] at carried
  exact ⟨untouched, first, 0, index, item, by rw [content, shapes]⟩

end DeclMerge.Catalog
