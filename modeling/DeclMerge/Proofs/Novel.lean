import DeclMerge.Novel

/-!
# First occurrences

Growing a list by what it lacks appends the first occurrence of everything new, and counts it
(`takes_addNovel`). Started from nothing it keeps the first occurrence of every element, so growing
in several rounds is the same as looking at all rounds at once: `addNovel_eraseDups`.
-/
namespace DeclMerge

variable {α : Type} [DecidableEq α]

theorem addNovel_eq_append (known more : List α) :
    addNovel known more = known ++ (more.filter fun y => decide (y ∉ known)).eraseDups := by
  induction more generalizing known with
  | nil => simp
  | cons x rest ih =>
    rw [addNovel_cons, ih]
    by_cases old : x ∈ known
    · simp [old]
    · -- `x` is passed over from now on, because it is known or because it occurred
      have passed : (rest.filter fun y => decide (y ∉ known ++ [x])) =
          (rest.filter fun y => decide (y ∉ known)).filter fun y => !(y == x) := by
        rw [List.filter_filter]
        apply List.filter_congr
        intro y _
        by_cases same : y = x <;> simp [same]
      rw [if_neg old, passed, List.filter_cons_of_pos (by simp [old]), List.eraseDups_cons,
        List.append_assoc, List.singleton_append]

theorem addNovel_nil_eq (more : List α) : addNovel [] more = more.eraseDups := by
  rw [addNovel_eq_append, List.nil_append, List.filter_eq_self.mpr (by simp)]

/-- What was grown once and grows again keeps the first occurrences of both rounds. -/
theorem addNovel_eraseDups (first second : List α) :
    addNovel first.eraseDups second = (first ++ second).eraseDups := by
  rw [← addNovel_nil_eq, ← addNovel_nil_eq, addNovel_append]

theorem nodup_eraseDups (xs : List α) : xs.eraseDups.Nodup := by
  rw [← addNovel_nil_eq]
  exact nodup_addNovel .nil xs

/-- A list is offered its own elements from a place on, each of them read off the list as it is
when its turn comes. -/
def offerOwn (sofar : List α × Nat) (place : Nat) : Nat → List α × Nat
  | 0 => sofar
  | steps + 1 =>
    match sofar.1[place]? with
    | none => sofar
    | some x => offerOwn (offer sofar x) (place + 1) steps

/-- It takes none of them, so it does not grow while it is read. -/
theorem offerOwn_eq (sofar : List α × Nat) (place steps : Nat) :
    offerOwn sofar place steps = sofar := by
  induction steps generalizing place with
  | zero => rfl
  | succ steps ih =>
    rw [offerOwn]
    split
    · rfl
    next x here =>
      have old : x ∈ sofar.1 := List.mem_of_getElem? here
      rw [offer, if_pos old]
      exact ih (place + 1)

/-- How a list `old` becomes `new` when it takes what it lacks of `more`, which are `added`. -/
structure Takes (old more new : List α) (added : Nat) : Prop where
  -- What was not there comes behind, each once and in the order of first occurrence.
  appended : new = old ++ (more.filter fun x => decide (x ∉ old)).eraseDups
  counted : new.length = old.length + added
  distinct : old.Nodup → new.Nodup
  members : ∀ x, x ∈ new ↔ x ∈ old ∨ x ∈ more
  none_iff : added = 0 ↔ ∀ x ∈ more, x ∈ old

theorem takes_addNovel (old more : List α) :
    Takes old more (addNovel old more) (countNovel old more) where
  appended := addNovel_eq_append old more
  counted := length_addNovel old more
  distinct distinct := nodup_addNovel distinct more
  members := mem_addNovel old more
  none_iff := countNovel_eq_zero_iff old more

end DeclMerge
