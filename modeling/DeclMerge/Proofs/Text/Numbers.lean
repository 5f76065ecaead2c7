import DeclMerge.Proofs.Text.Append
import Mathlib

/-!
# Numbers behind texts

A number is read back from its digits, but not where they begin behind a text: `f1` and the number
`1` make the same text as `f` and `11`. Two such pairs make one text exactly if they are equal or
one text goes on with digits of the other number (`append_repr_eq_iff`). So nothing is confused
behind texts that do not end in a digit (`append_mark_repr_inj`).
-/
namespace DeclMerge.Text

/-- The first text goes on with digits that the second number begins with. -/
def Outgrows (longer : String) (rest : Nat) (shorter : String) (number : Nat) : Prop :=
  ∃ digits, digits ≠ "" ∧ longer = shorter ++ digits ∧ number.repr = digits ++ rest.repr

theorem Outgrows.append_eq {longer shorter : String} {rest number : Nat}
    (outgrows : Outgrows longer rest shorter number) :
    longer ++ rest.repr = shorter ++ number.repr := by
  obtain ⟨digits, _, rfl, shown⟩ := outgrows
  rw [shown, String.append_assoc]

/-- A text that outgrows another ends in a digit. -/
theorem Outgrows.getLast_isDigit {longer shorter : String} {rest number : Nat}
    (outgrows : Outgrows longer rest shorter number) :
    ∃ last ∈ longer.toList.getLast?, last.isDigit = true := by
  obtain ⟨digits, nonempty, rfl, shown⟩ := outgrows
  have some_digit : digits.toList ≠ [] := fun none => nonempty (String.toList_inj.mp none)
  refine ⟨digits.toList.getLast some_digit, ?_, ?_⟩
  · rw [String.toList_append, List.getLast?_append, List.getLast?_eq_some_getLast some_digit]
    rfl
  · have inside : digits.toList.getLast some_digit ∈ Nat.toDigits 10 number := by
      rw [← Nat.toList_repr, shown, String.toList_append]
      exact List.mem_append_left _ (List.getLast_mem some_digit)
    exact Nat.isDigit_of_mem_toDigits (by decide) (by decide) inside

private theorem outgrows_of_cut {longer shorter digits : String} {rest number : Nat}
    (grown : longer = shorter ++ digits) (shown : number.repr = digits ++ rest.repr) :
    (longer = shorter ∧ rest = number) ∨ Outgrows longer rest shorter number := by
  by_cases empty : digits = ""
  · subst empty
    rw [String.append_empty] at grown
    rw [String.empty_append] at shown
    exact .inl ⟨grown, (Nat.repr_inj.mp shown).symm⟩
  · exact .inr ⟨digits, empty, grown, shown⟩

theorem append_repr_eq_iff (left other : String) (number rest : Nat) :
    left ++ number.repr = other ++ rest.repr ↔
      (left = other ∧ number = rest) ∨ Outgrows left number other rest ∨
        Outgrows other rest left number := by
  constructor
  · intro same
    rcases append_eq_append_iff.mp same with ⟨digits, grown, shown⟩ | ⟨digits, grown, shown⟩
    · rcases outgrows_of_cut grown shown with ⟨name, value⟩ | outgrows
      · exact .inl ⟨name.symm, value.symm⟩
      · exact .inr (.inr outgrows)
    · rcases outgrows_of_cut grown shown with ⟨name, value⟩ | outgrows
      · exact .inl ⟨name, value⟩
      · exact .inr (.inl outgrows)
  · rintro (⟨rfl, rfl⟩ | outgrows | outgrows)
    · rfl
    · exact outgrows.append_eq
    · exact outgrows.append_eq.symm

/-- A number is read back from behind a mark that does not end in a digit. -/
theorem append_mark_repr_inj {left other mark : String} {number rest : Nat}
    (gap : ∃ last ∈ mark.toList.getLast?, last.isDigit = false) :
    left ++ mark ++ number.repr = other ++ mark ++ rest.repr ↔ left = other ∧ number = rest := by
  obtain ⟨last, is_last, no_digit⟩ := gap
  have ends (text : String) : last ∈ (text ++ mark).toList.getLast? := by
    rw [String.toList_append, List.getLast?_append, is_last]
    rfl
  -- So neither text outgrows the other.
  have plain {longer shorter : String} {number rest : Nat} :
      ¬ Outgrows (longer ++ mark) number shorter rest := by
    intro outgrows
    obtain ⟨final, is_final, digit⟩ := outgrows.getLast_isDigit
    rw [Option.mem_unique is_final (ends longer), no_digit] at digit
    cases digit
  rw [append_repr_eq_iff, or_iff_left (not_or.mpr ⟨plain, plain⟩), String.append_left_inj]

end DeclMerge.Text
