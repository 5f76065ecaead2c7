import DeclMerge.Output.Item
import DeclMerge.Table
import Mathlib.Data.Finset.Card
import Mathlib.Data.Finset.Dedup

/-!
# Tables that give every key one item

Modules and declarations are looked up and made in the same manner: a key that is there answers
with its item, a key that is not there gets the next identity. `Arrives` is one such answer, and
`Registers` is what holds after any number of them: the keys are the ones that arrived, each
answers with the item of all its arrivals, and no two keys share an item.
-/
namespace DeclMerge.Table

/-- A key arrives at a table while the store grows from `before` to `after`. -/
inductive Arrives (table : Table Id) (before after : Id) (key : String) : Id → Table Id → Prop where
  | known {id : Id} (found : table.get? key = some id) (grown : before ≤ after) :
      Arrives table before after key id table
  | new (absent : table.get? key = none) (grown : before < after) :
      Arrives table before after key before (table.set key before)

/-- What is registered after these arrivals, when `next` is the next identity. -/
structure Registers (table : Table Id) (arrivals : List (String × Id)) (next : Id) : Prop where
  older : ∀ key id, table.get? key = some id → id < next
  apart : ∀ key other id, table.get? key = some id → table.get? other = some id → key = other
  present : ∀ key, key ∈ table.keys ↔ key ∈ arrivals.map Prod.fst
  found : ∀ entry ∈ arrivals, table.get? entry.1 = some entry.2

variable {table changed : Table Id} {arrivals : List (String × Id)} {before after : Id}

namespace Registers

theorem empty (next : Id) : (∅ : Table Id).Registers [] next where
  older _ _ found := by cases found
  apart _ _ _ found := by cases found
  present key := by simp
  found _ member := by cases member

theorem grow (registers : table.Registers arrivals before) (grown : before ≤ after) :
    table.Registers arrivals after where
  older key id found := Nat.lt_of_lt_of_le (registers.older key id found) grown
  apart := registers.apart
  present := registers.present
  found := registers.found

/-- The identity that comes next is registered nowhere. -/
theorem ne_next (registers : table.Registers arrivals before) (key : String) :
    table.get? key ≠ some before :=
  fun found => Nat.lt_irrefl before (registers.older key before found)

theorem contains_iff (registers : table.Registers arrivals before) (key : String) :
    table.contains key = true ↔ key ∈ arrivals.map Prod.fst := by
  rw [← registers.present, mem_keys_iff]
  rfl

theorem get?_eq_none_iff (registers : table.Registers arrivals before) (key : String) :
    table.get? key = none ↔ key ∉ arrivals.map Prod.fst := by
  rw [← registers.present, mem_keys_iff, Option.not_isSome_iff_eq_none]

private theorem again {key : String} {id : Id} (registers : table.Registers arrivals before)
    (here : table.get? key = some id) : table.Registers (arrivals ++ [(key, id)]) before where
  older := registers.older
  apart := registers.apart
  present other := by
    have known : key ∈ table.keys := (mem_keys_iff table key).mpr (by rw [here]; rfl)
    rw [List.map_append, List.mem_append, ← registers.present, List.map_singleton,
      List.mem_singleton]
    constructor
    · exact Or.inl
    · rintro (old | rfl)
      · exact old
      · exact known
  found entry member := by
    rcases List.mem_append.mp member with old | last
    · exact registers.found entry old
    · rw [List.mem_singleton.mp last]
      exact here

private theorem first {key : String} (registers : table.Registers arrivals before)
    (absent : table.get? key = none) (grown : before < after) :
    (table.set key before).Registers (arrivals ++ [(key, before)]) after where
  older other id found := by
    rw [get?_set] at found
    split at found
    · cases found
      exact grown
    · exact Nat.lt_trans (registers.older other id found) grown
  apart left right id inLeft inRight := by
    rw [get?_set] at inLeft inRight
    -- If only one of the two is the new key, the other was bound to the next identity before.
    split at inLeft <;> split at inRight
    next here there => exact here.symm.trans there
    next =>
      cases inLeft
      exact absurd inRight (registers.ne_next right)
    next =>
      cases inRight
      exact absurd inLeft (registers.ne_next left)
    next => exact registers.apart left right id inLeft inRight
  present other := by
    have missing : key ∉ table.keys := by
      rw [mem_keys_iff, absent]
      exact Bool.false_ne_true
    rw [keys_set, if_neg missing, List.map_append, List.mem_append, List.mem_append,
      registers.present]
    rfl
  found entry member := by
    rw [get?_set]
    rcases List.mem_append.mp member with old | last
    · have earlier := registers.found entry old
      rw [if_neg, earlier]
      rintro rfl
      rw [absent] at earlier
      cases earlier
    · rw [List.mem_singleton.mp last, if_pos rfl]

theorem arrive {key : String} {id : Id} (registers : table.Registers arrivals before)
    (arrives : table.Arrives before after key id changed) :
    changed.Registers (arrivals ++ [(key, id)]) after := by
  cases arrives with
  | known found grown => exact (registers.again found).grow grown
  | new absent grown => exact registers.first absent grown

/-- Two arrivals got one item exactly if they had one key. -/
theorem item_eq_iff (registers : table.Registers arrivals before) {left right : String × Id}
    (isLeft : left ∈ arrivals) (isRight : right ∈ arrivals) :
    left.2 = right.2 ↔ left.1 = right.1 := by
  have inLeft := registers.found left isLeft
  have inRight := registers.found right isRight
  constructor
  · intro same
    rw [← same] at inRight
    exact registers.apart left.1 right.1 left.2 inLeft inRight
  · intro same
    rw [← same, inLeft] at inRight
    exact Option.some.inj inRight

/-- The table has as many entries as different keys arrived. -/
theorem size_eq (registers : table.Registers arrivals before) :
    table.size = (arrivals.map Prod.fst).toFinset.card := by
  rw [size_eq_length_keys, ← List.toFinset_card_of_nodup table.nodup_keys]
  congr 1
  ext key
  rw [List.mem_toFinset, List.mem_toFinset]
  exact registers.present key

end Registers

theorem Arrives.grown {key : String} {id : Id}
    (arrives : table.Arrives before after key id changed) : before ≤ after := by
  cases arrives with
  | known found grown => exact grown
  | new absent grown => exact Nat.le_of_lt grown

theorem Arrives.get?_of_ne {key other : String} {id : Id}
    (arrives : table.Arrives before after key id changed) (differs : key ≠ other) :
    changed.get? other = table.get? other := by
  cases arrives with
  | known => rfl
  | new => exact get?_set_of_ne table before differs

/-- An arrival never takes a key its item. -/
theorem Arrives.keeps {key other : String} {id kept : Id}
    (arrives : table.Arrives before after key id changed) (bound : table.get? other = some kept) :
    changed.get? other = some kept := by
  cases arrives with
  | known => exact bound
  | new absent =>
    have differs : key ≠ other := by
      rintro rfl
      rw [absent] at bound
      cases bound
    rw [get?_set_of_ne table before differs]
    exact bound

/-- An arrival binds no older identity that was bound to no key. -/
theorem Arrives.avoids {key : String} {id avoided : Id}
    (arrives : table.Arrives before after key id changed) (older : avoided < before)
    (free : ∀ other, table.get? other ≠ some avoided) (other : String) :
    changed.get? other ≠ some avoided := by
  cases arrives with
  | known => exact free other
  | new =>
    rw [get?_set]
    split
    · intro bound
      cases bound
      exact Nat.lt_irrefl before older
    · exact free other

end DeclMerge.Table
