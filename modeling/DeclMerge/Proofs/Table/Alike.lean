import DeclMerge.Fault
import DeclMerge.Table
import Mathlib.Data.List.Forall2

/-!
# Likeness

Two runs that do the same under different identities are compared along a relation between what
they hold. Results are alike if both fail with one fault or both succeed with related values;
tables are alike if they hold related values under the same names in the same order.
-/
namespace DeclMerge

variable {α β γ δ : Type}

inductive Likewise (related : α → β → Prop) : Except Fault α → Except Fault β → Prop where
  | error (fault : Fault) : Likewise related (.error fault) (.error fault)
  | ok {left : α} {right : β} (here : related left right) : Likewise related (.ok left) (.ok right)

namespace Likewise

variable {related : α → β → Prop} {other : γ → δ → Prop} {left : Except Fault α}
  {right : Except Fault β}

theorem map {f : α → γ} {g : β → δ} (alike : Likewise related left right)
    (here : ∀ x y, related x y → other (f x) (g y)) :
    Likewise other (left.map f) (right.map g) := by
  cases alike with
  | error fault => exact .error fault
  | ok first => exact .ok (here _ _ first)

theorem mono {wider : α → β → Prop} (alike : Likewise related left right)
    (here : ∀ x y, related x y → wider x y) : Likewise wider left right := by
  cases alike with
  | error fault => exact .error fault
  | ok first => exact .ok (here _ _ first)

/-- What need not be there is looked up alike on both sides. -/
theorem mapM {κ : Type} {find : κ → Except Fault α} {find' : κ → Except Fault β} {sought : Option κ}
    (found : ∀ label ∈ sought, Likewise related (find label) (find' label)) :
    Likewise (Option.Rel related) (sought.mapM find) (sought.mapM find') := by
  cases sought with
  | none => exact .ok .none
  | some label => exact (found label rfl).map fun x y here => .some here

end Likewise

namespace Entries

/-- Related values under the same names, in the same order. -/
def Alike (related : α → β → Prop) : List (String × α) → List (String × β) → Prop :=
  List.Forall₂ fun left right => left.1 = right.1 ∧ related left.2 right.2

variable {related : α → β → Prop} {left : List (String × α)} {right : List (String × β)}

theorem Alike.find (alike : Alike related left right) (key : String) :
    Option.Rel related (find key left) (find key right) := by
  induction alike with
  | nil => exact .none
  | @cons first second _ _ here _ ih =>
    obtain ⟨name, value⟩ := first
    obtain ⟨name', value'⟩ := second
    obtain ⟨rfl, here⟩ : name = name' ∧ related value value' := here
    rw [Entries.find, Entries.find]
    split
    · exact .some here
    · exact ih

theorem Alike.put (alike : Alike related left right) (key : String) {value : α} {value' : β}
    (new : related value value') : Alike related (put key value left) (put key value' right) := by
  induction alike with
  | nil => exact .cons ⟨rfl, new⟩ .nil
  | @cons first second _ _ here rest ih =>
    obtain ⟨name, old⟩ := first
    obtain ⟨name', old'⟩ := second
    obtain ⟨rfl, here⟩ : name = name' ∧ related old old' := here
    rw [Entries.put, Entries.put]
    split
    · exact .cons ⟨rfl, new⟩ rest
    · exact .cons ⟨rfl, here⟩ ih

end Entries

namespace Table

def Alike (related : α → β → Prop) (left : Table α) (right : Table β) : Prop :=
  Entries.Alike related left.entries right.entries

namespace Alike

variable {related : α → β → Prop} {left : Table α} {right : Table β}

theorem empty : (∅ : Table α).Alike related (∅ : Table β) := .nil

theorem get? (alike : left.Alike related right) (key : String) :
    Option.Rel related (left.get? key) (right.get? key) := Entries.Alike.find alike key

theorem set (alike : left.Alike related right) (key : String) {value : α} {value' : β}
    (new : related value value') : (left.set key value).Alike related (right.set key value') :=
  Entries.Alike.put alike key new

theorem size_eq (alike : left.Alike related right) : left.size = right.size :=
  List.Forall₂.length_eq alike

theorem contains_eq (alike : left.Alike related right) (key : String) :
    left.contains key = right.contains key := by
  have here := alike.get? key
  rw [contains, contains]
  generalize left.get? key = first, right.get? key = second at here
  cases here <;> rfl

theorem mono {wider : α → β → Prop} (alike : left.Alike related right)
    (here : ∀ x y, related x y → wider x y) : left.Alike wider right :=
  List.Forall₂.imp (fun _ _ first => ⟨first.1, here _ _ first.2⟩) alike

end Alike

end Table

end DeclMerge
