/-!
# Growing a list by what it lacks

A list is offered elements one by one, and takes those that it does not have yet; what it took
before counts as had. `addNovel known more` is what `known` becomes when it is offered all of
`more`, and `countNovel known more` the number of elements that it took. The order in which
elements arrive is kept, an element of `more` that repeats is added once, and a list without
repetitions stays one.
-/
namespace DeclMerge

variable {α : Type} [DecidableEq α]

/-- A list that grows, with the number of elements that it took so far, is offered one more. -/
def offer (sofar : List α × Nat) (x : α) : List α × Nat :=
  if x ∈ sofar.1 then sofar else (sofar.1 ++ [x], sofar.2 + 1)

def offerAll (known more : List α) : List α × Nat := more.foldl offer (known, 0)

def addNovel (known more : List α) : List α := (offerAll known more).1

def countNovel (known more : List α) : Nat := (offerAll known more).2

/-- What is taken does not depend on the number of what was taken before, and adds to it. -/
theorem foldl_offer (known more : List α) (count : Nat) :
    more.foldl offer (known, count) = (addNovel known more, count + countNovel known more) := by
  have shifted (sofar : List α) (first later : Nat) : more.foldl offer (sofar, first + later) =
      ((more.foldl offer (sofar, later)).1, first + (more.foldl offer (sofar, later)).2) := by
    induction more generalizing sofar later with
    | nil => rfl
    | cons x rest ih =>
      rw [List.foldl_cons, List.foldl_cons, offer, offer]
      split
      · exact ih sofar later
      · exact ih (sofar ++ [x]) (later + 1)
  exact shifted known count 0

@[simp] theorem addNovel_nil (known : List α) : addNovel known [] = known := rfl

@[simp] theorem countNovel_nil (known : List α) : countNovel known [] = 0 := rfl

theorem offerAll_cons (known : List α) (x : α) (more : List α) :
    offerAll known (x :: more) =
      if x ∈ known then offerAll known more
      else (addNovel (known ++ [x]) more, countNovel (known ++ [x]) more + 1) := by
  rw [offerAll, List.foldl_cons, offer]
  split
  · rfl
  · rw [foldl_offer, Nat.zero_add, Nat.add_comm]

theorem addNovel_cons (known : List α) (x : α) (more : List α) :
    addNovel known (x :: more) = addNovel (if x ∈ known then known else known ++ [x]) more := by
  rw [addNovel, offerAll_cons]
  split <;> rfl

theorem countNovel_cons (known : List α) (x : α) (more : List α) :
    countNovel known (x :: more) =
      if x ∈ known then countNovel known more else countNovel (known ++ [x]) more + 1 := by
  rw [countNovel, offerAll_cons]
  split <;> rfl

/-- Adding two lists one after the other is adding them at once. -/
theorem addNovel_append (known first second : List α) :
    addNovel known (first ++ second) = addNovel (addNovel known first) second := by
  rw [addNovel, offerAll, List.foldl_append, foldl_offer, foldl_offer]

/-- The count tells by how much the list grew. -/
theorem length_addNovel (known more : List α) :
    (addNovel known more).length = known.length + countNovel known more := by
  induction more generalizing known with
  | nil => rfl
  | cons x rest ih =>
    rw [addNovel_cons, countNovel_cons, ih]
    split
    · rfl
    · rw [List.length_append, List.length_singleton]
      omega

theorem mem_addNovel (known more : List α) (x : α) :
    x ∈ addNovel known more ↔ x ∈ known ∨ x ∈ more := by
  induction more generalizing known with
  | nil => simp
  | cons y rest ih =>
    rw [addNovel_cons, ih]
    by_cases old : y ∈ known
    · simp only [old, if_true, List.mem_cons]
      constructor
      · rintro (here | here)
        · exact .inl here
        · exact .inr (.inr here)
      · rintro (here | rfl | here)
        · exact .inl here
        · exact .inl old
        · exact .inr here
    · simp only [old, if_false, List.mem_append, List.mem_cons, List.not_mem_nil, or_false, or_assoc]

theorem nodup_addNovel {known : List α} (distinct : known.Nodup) (more : List α) :
    (addNovel known more).Nodup := by
  induction more generalizing known with
  | nil => exact distinct
  | cons x rest ih =>
    rw [addNovel_cons]
    split
    · exact ih distinct
    · next absent =>
      refine ih (List.nodup_append.mpr ⟨distinct, by simp, ?_⟩)
      rintro y member _ (_ | ⟨_, ⟨⟩⟩) rfl
      exact absent member

/-- What is there already adds nothing. -/
theorem addNovel_of_subset {known more : List α} (old : ∀ x ∈ more, x ∈ known) :
    addNovel known more = known := by
  induction more with
  | nil => rfl
  | cons x rest ih =>
    rw [addNovel_cons, if_pos (old x List.mem_cons_self)]
    exact ih fun y member => old y (List.mem_cons_of_mem x member)

/-- Nothing is taken exactly if all of it was there. -/
theorem countNovel_eq_zero_iff (known more : List α) :
    countNovel known more = 0 ↔ ∀ x ∈ more, x ∈ known := by
  induction more with
  | nil => simp
  | cons x rest ih =>
    rw [countNovel_cons, List.forall_mem_cons]
    by_cases old : x ∈ known
    · rw [if_pos old, ih]
      exact (and_iff_right old).symm
    · rw [if_neg old]
      exact iff_of_false (Nat.succ_ne_zero _) fun all => old all.1

end DeclMerge
