import DeclMerge.Proofs.Text.Squeezed
import Mathlib.Data.List.Chain

/-!
# Tidy texts

In a tidy text single spaces stand between the words, and there are no other blanks. These are the
texts that joining their words leaves as they are (`spaced_eq_self_iff`). What the normal form cuts
off the joined words are separators and one space, so it is tidy too (`tidy_normalForm`,
`exists_cut`).
-/
namespace DeclMerge.Text

/-- Every blank is a space; none is at an end of the text, and none next to another. -/
structure Tidy (text : List Char) : Prop where
  trimmed : Trimmed text
  spaces : ∀ c ∈ text, isBlank c = true → c = ' '
  alone : text.IsChain fun c next => isBlank c = true → isBlank next = false

/-! ### Squeezing and joining -/

theorem length_squeeze_le (text : List Char) : (squeeze text).length ≤ text.length := by
  induction text with
  | nil => exact Nat.le_refl 0
  | cons c rest ih =>
    rw [squeeze]
    split
    · split <;> simp <;> omega
    · simpa using ih

/-- Squeezing leaves a text alone if all runs of blanks in it are one space. -/
theorem squeeze_eq_self_iff (text : List Char) :
    squeeze text = text ↔ (∀ c ∈ text, isBlank c = true → c = ' ') ∧
      text.IsChain fun c next => isBlank c = true → isBlank next = false := by
  induction text with
  | nil => simp [squeeze]
  | cons c rest ih =>
    rw [List.forall_mem_cons, List.isChain_cons]
    cases blank : isBlank c with
    | false => simp [squeeze_cons_of_solid blank, ih]
    | true =>
      cases next : rest.head?.any isBlank with
      | true =>
        -- The text has a longer run here, so it gets shorter.
        have shorter : squeeze (c :: rest) = squeeze rest := by simp [squeeze, blank, next]
        obtain ⟨d, head, more⟩ := (Option.any_eq_true ..).mp next
        refine iff_of_false (fun same => ?_) fun both => ?_
        · have bound := length_squeeze_le rest
          rw [← shorter, same, List.length_cons] at bound
          omega
        · obtain ⟨_, first, _⟩ := both
          have solid := first d head rfl
          rw [more] at solid
          cases solid
      | false =>
        have first : ∀ d ∈ rest.head?, isBlank d = false := by
          intro d head
          rwa [Option.mem_def.mp head] at next
        have here : squeeze (c :: rest) = ' ' :: squeeze rest := by simp [squeeze, blank, next]
        rw [here, List.cons_eq_cons, ih, eq_comm]
        simp only [true_implies]
        constructor
        · rintro ⟨space, spaces, alone⟩
          exact ⟨⟨space, spaces⟩, first, alone⟩
        · rintro ⟨⟨space, spaces⟩, _, alone⟩
          exact ⟨space, spaces, alone⟩

theorem squeeze_of_trimmed {text : List Char} (trimmed : Trimmed text) :
    squeeze text = spaced text := by
  by_cases empty : text = []
  · simp [empty, squeeze]
  · have no_gap : text.head?.any isBlank = false := by
      cases head : text.head? with
      | none => rfl
      | some c => exact trimmed.head c head
    rw [squeeze_eq empty trimmed.last, no_gap, if_neg Bool.false_ne_true]

theorem spaced_head (text : List Char) : ∀ c ∈ (spaced text).head?, isBlank c = false := by
  induction text with
  | nil => simp
  | cons c rest ih =>
    cases blank : isBlank c with
    | true =>
      rw [spaced, words_blank_cons rest blank]
      exact ih
    | false =>
      -- Joined words begin as the first word does.
      obtain ⟨word, after, _, filled, solid, _, all⟩ :=
        exists_first_word (List.cons_ne_nil c rest) (by simp [blank])
      obtain ⟨first, others, rfl⟩ := List.exists_cons_of_ne_nil filled
      have begins : (spaced (c :: rest)).head? = some first := by
        rw [spaced, all]
        cases words after <;> simp [List.intercalate_cons_cons]
      rw [begins]
      intro d same
      rw [← Option.some.inj same]
      exact solid first List.mem_cons_self

/-- The tidy texts are those that are the words of a text, joined by single spaces. -/
theorem spaced_eq_self_iff (text : List Char) : spaced text = text ↔ Tidy text := by
  constructor
  · intro same
    have head := spaced_head text
    have last := spaced_getLast text
    rw [same] at head last
    have trimmed : Trimmed text := ⟨head, last⟩
    obtain ⟨spaces, alone⟩ :=
      (squeeze_eq_self_iff text).mp ((squeeze_of_trimmed trimmed).trans same)
    exact ⟨trimmed, spaces, alone⟩
  · intro tidy
    rw [← squeeze_of_trimmed tidy.trimmed, squeeze_eq_self_iff]
    exact ⟨tidy.spaces, tidy.alone⟩

theorem tidy_spaced (text : List Char) : Tidy (spaced text) :=
  (spaced_eq_self_iff _).mp (spaced_spaced text)

/-! ### Normal forms -/

theorem tidy_normalForm (text : List Char) : Tidy (normalForm text) :=
  (spaced_eq_self_iff _).mp (spaced_normalForm text)

theorem exists_cut (text : List Char) :
    ∃ cut, normalForm text ++ cut = spaced text ∧
      ∀ c ∈ cut, c = ';' ∨ c = ',' ∨ c = ' ' := by
  obtain ⟨blanks, separators, whole, gap, marks⟩ := exists_normalForm_append text
  refine ⟨blanks ++ separators, whole, fun c member => ?_⟩
  rcases List.mem_append.mp member with here | here
  · -- The joined words have no blanks but spaces.
    have inside : c ∈ spaced text := whole ▸ List.mem_append_right _ member
    exact .inr (.inr ((tidy_spaced text).spaces c inside (gap c here)))
  · have separator := marks c here
    simp only [isSeparator, Bool.or_eq_true, decide_eq_true_eq] at separator
    exact separator.imp id .inl

end DeclMerge.Text
