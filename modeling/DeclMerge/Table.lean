/-!
# Tables by name

A table holds one value per name and remembers the order in which the names arrived. Writing an
old name replaces its value where it stands; a new name goes to the end. Three equations describe
every table: what `get?` answers after `set` (`get?_set`), which names there are (`keys_set`), and
that a name is present exactly when `get?` finds it (`mem_keys_iff`).
-/
namespace DeclMerge

namespace Entries

variable {α : Type}

/-- The value of the first entry under `key`. -/
def find (key : String) : List (String × α) → Option α
  | [] => none
  | (name, value) :: rest => if name = key then some value else find key rest

/-- Replace the value under `key`, or add an entry at the end. -/
def put (key : String) (value : α) : List (String × α) → List (String × α)
  | [] => [(key, value)]
  | (name, old) :: rest =>
    if name = key then (name, value) :: rest else (name, old) :: put key value rest

theorem find_put (key other : String) (value : α) (entries : List (String × α)) :
    find other (put key value entries) = if key = other then some value else find other entries := by
  induction entries with
  | nil => simp [put, find]
  | cons entry rest ih =>
    obtain ⟨name, old⟩ := entry
    by_cases same : name = key
    · subst same
      by_cases here : name = other <;> simp [put, find, here]
    · by_cases here : name = other
      · subst here
        simp [put, find, same, Ne.symm same]
      · simp [put, find, same, here, ih]

theorem keys_put (key : String) (value : α) (entries : List (String × α)) :
    (put key value entries).map Prod.fst =
      if key ∈ entries.map Prod.fst then entries.map Prod.fst
      else entries.map Prod.fst ++ [key] := by
  induction entries with
  | nil => simp [put]
  | cons entry rest ih =>
    obtain ⟨name, old⟩ := entry
    by_cases same : name = key
    · simp [put, same]
    · simp only [put, same, if_false, List.map_cons, ih, List.mem_cons, Ne.symm same, false_or]
      split <;> rfl

theorem find_isSome_iff (key : String) (entries : List (String × α)) :
    (find key entries).isSome = true ↔ key ∈ entries.map Prod.fst := by
  induction entries with
  | nil => simp [find]
  | cons entry rest ih =>
    obtain ⟨name, old⟩ := entry
    by_cases same : name = key
    · simp [find, same]
    · simp only [find, same, if_false, ih, List.map_cons, List.mem_cons, Ne.symm same, false_or]

theorem nodup_put (key : String) (value : α) {entries : List (String × α)}
    (distinct : (entries.map Prod.fst).Nodup) : ((put key value entries).map Prod.fst).Nodup := by
  rw [keys_put]
  split
  · exact distinct
  · next absent =>
    rw [List.nodup_append]
    refine ⟨distinct, by simp, ?_⟩
    rintro name member _ (_ | ⟨_, ⟨⟩⟩) rfl
    exact absent member

end Entries

/-- One value per name, in the order in which the names first arrived. -/
structure Table (α : Type) where
  entries : List (String × α) := []
  nodup : (entries.map Prod.fst).Nodup := by exact .nil

namespace Table

variable {α : Type}

instance : EmptyCollection (Table α) := ⟨{}⟩

instance : Inhabited (Table α) := ⟨∅⟩

def get? (table : Table α) (key : String) : Option α := Entries.find key table.entries

def set (table : Table α) (key : String) (value : α) : Table α :=
  ⟨Entries.put key value table.entries, Entries.nodup_put key value table.nodup⟩

def keys (table : Table α) : List String := table.entries.map Prod.fst

def contains (table : Table α) (key : String) : Bool := (table.get? key).isSome

def size (table : Table α) : Nat := table.entries.length

@[simp] theorem entries_empty : (∅ : Table α).entries = [] := rfl

@[simp] theorem get?_empty (key : String) : (∅ : Table α).get? key = none := rfl

@[simp] theorem keys_empty : (∅ : Table α).keys = [] := rfl

@[simp] theorem size_empty : (∅ : Table α).size = 0 := rfl

theorem get?_set (table : Table α) (key other : String) (value : α) :
    (table.set key value).get? other = if key = other then some value else table.get? other :=
  Entries.find_put key other value table.entries

@[simp] theorem get?_set_self (table : Table α) (key : String) (value : α) :
    (table.set key value).get? key = some value := by
  simp [get?_set]

theorem get?_set_of_ne (table : Table α) {key other : String} (value : α) (apart : key ≠ other) :
    (table.set key value).get? other = table.get? other := by
  simp [get?_set, apart]

theorem keys_set (table : Table α) (key : String) (value : α) :
    (table.set key value).keys =
      if key ∈ table.keys then table.keys else table.keys ++ [key] :=
  Entries.keys_put key value table.entries

theorem nodup_keys (table : Table α) : table.keys.Nodup := table.nodup

theorem mem_keys_iff (table : Table α) (key : String) :
    key ∈ table.keys ↔ (table.get? key).isSome = true :=
  (Entries.find_isSome_iff key table.entries).symm

theorem size_eq_length_keys (table : Table α) : table.size = table.keys.length :=
  (List.length_map ..).symm

end Table

end DeclMerge
