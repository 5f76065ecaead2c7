/-!
# When two texts that were put together are equal

A text that was put together from two parts does not tell where the first part ends. Two pairs of
parts make one text exactly if the first part of one pair goes on with what the second part of the
other begins with. With a mark between the parts this can only happen at a mark, so pairs can only
be confused if a part carries the mark itself.
-/
namespace DeclMerge.Text

variable {left right other rest : String}

theorem append_eq_append_iff :
    left ++ right = other ++ rest ↔
      (∃ part, other = left ++ part ∧ right = part ++ rest) ∨
      (∃ part, left = other ++ part ∧ rest = part ++ right) := by
  constructor
  · intro same
    have chars := congrArg String.toList same
    rw [String.toList_append, String.toList_append] at chars
    rcases List.append_eq_append_iff.mp chars with ⟨part, first, second⟩ | ⟨part, first, second⟩
    · left
      refine ⟨.ofList part, ?_, ?_⟩
      · exact String.toList_inj.mp (by simpa using first)
      · exact String.toList_inj.mp (by simpa using second)
    · right
      refine ⟨.ofList part, ?_, ?_⟩
      · exact String.toList_inj.mp (by simpa using first)
      · exact String.toList_inj.mp (by simpa using second)
  · rintro (⟨part, rfl, rfl⟩ | ⟨part, rfl, rfl⟩)
    · rw [String.append_assoc]
    · rw [String.append_assoc]

/-- The two parts of a text, with a mark between them. -/
def joined (mark : Char) (left right : String) : String := left ++ .singleton mark ++ right

theorem joined_assoc (mark : Char) (left right rest : String) :
    joined mark (joined mark left right) rest = joined mark left (joined mark right rest) := by
  simp only [joined, String.append_assoc]

/-- What a mark begins is cut before the mark or behind it. -/
private theorem mark_cut {mark : Char} {part : String}
    (cut : .singleton mark ++ right = part ++ (.singleton mark ++ rest)) :
    (part = "" ∧ right = rest) ∨
      ∃ more, part = .singleton mark ++ more ∧ right = joined mark more rest := by
  have chars := congrArg String.toList cut
  simp only [String.toList_append, String.toList_singleton, List.singleton_append] at chars
  -- A cut behind the mark leaves it in the part.
  rcases List.cons_eq_append_iff.mp chars with ⟨empty, behind⟩ | ⟨more, begins, ends⟩
  · left
    refine ⟨String.toList_inj.mp empty, ?_⟩
    exact String.toList_inj.mp (List.cons.inj behind).2.symm
  · right
    refine ⟨.ofList more, ?_, ?_⟩
    · exact String.toList_inj.mp (by simpa using begins)
    · exact String.toList_inj.mp (by simpa [joined] using ends)

theorem joined_eq_joined_iff (mark : Char) (left right other rest : String) :
    joined mark left right = joined mark other rest ↔
      (left = other ∧ right = rest) ∨
      (∃ part, other = joined mark left part ∧ right = joined mark part rest) ∨
      (∃ part, left = joined mark other part ∧ rest = joined mark part right) := by
  constructor
  · intro same
    rw [joined, joined, String.append_assoc, String.append_assoc, append_eq_append_iff] at same
    rcases same with ⟨part, longer, cut⟩ | ⟨part, longer, cut⟩
    · rcases mark_cut cut with ⟨rfl, behind⟩ | ⟨more, rfl, behind⟩
      · exact .inl ⟨by rw [longer, String.append_empty], behind⟩
      · exact .inr (.inl ⟨more, by rw [longer, joined, String.append_assoc], behind⟩)
    · rcases mark_cut cut with ⟨rfl, behind⟩ | ⟨more, rfl, behind⟩
      · exact .inl ⟨by rw [longer, String.append_empty], behind.symm⟩
      · exact .inr (.inr ⟨more, by rw [longer, joined, String.append_assoc], behind⟩)
  · rintro (⟨rfl, rfl⟩ | ⟨part, rfl, rfl⟩ | ⟨part, rfl, rfl⟩)
    · rfl
    · rw [joined_assoc]
    · rw [joined_assoc]

end DeclMerge.Text
