import DeclMerge.Proofs.Text.Words
import Mathlib.Data.List.DropRight
import Mathlib.Data.List.Induction

/-!
# Separators at the end

The normal form joins the words and cuts the separators off the last of them, once. Separators at
the end of a text that have blanks among them stand in several groups, and one group is all that
is cut: `groups (normalForm text) = groups text - 1`. So separators and blanks that are put behind
a text leave its normal form as it is unless they open a group behind another one, and a normal
form is normalized further as long as it ends with a group (`normalize_cuts_one_group`).
-/
namespace DeclMerge.Text

/-- The words of a text with one space between any two of them. -/
def spaced (text : List Char) : List Char := [' '].intercalate (words text)

/-- The characters that may trail behind a text. -/
def isTrailing (c : Char) : Bool := isBlank c || isSeparator c

/-- How many groups of separators end a text; blanks tell them apart. -/
def groups (text : List Char) : Nat := (words (text.rtakeWhile isTrailing)).length

theorem normalForm_eq (text : List Char) :
    normalForm text = ((spaced text).rdropWhile isSeparator).rdropWhile isBlank := by
  rw [List.rdropWhile, List.rdropWhile, List.reverse_reverse]
  rfl

theorem isBlank_of_isSeparator {c : Char} (separator : isSeparator c = true) :
    isBlank c = false := by
  simp only [isSeparator, Bool.or_eq_true, decide_eq_true_eq] at separator
  rcases separator with rfl | rfl <;> decide

/-- A text ends with a blank or with another character; an empty text does both. -/
theorem blank_last_cases (text : List Char) :
    (∀ b ∈ text.getLast?, isBlank b = false) ∨ ∀ b ∈ text.getLast?, isBlank b = true := by
  cases text.getLast? with
  | none => simp
  | some b => cases blank : isBlank b <;> simp [blank]

/-- To prove a fact of a text, add to it one character after the other: a blank, a separator that
goes on with the last word, a separator behind a blank, or any other character. -/
theorem trailing_induction {motive : List Char → Prop} (nil : motive [])
    (blank : ∀ text c, isBlank c = true → motive text → motive (text ++ [c]))
    (joins : ∀ text c, isSeparator c = true → (∀ b ∈ text.getLast?, isBlank b = false) →
      motive text → motive (text ++ [c]))
    (opens : ∀ text c, isSeparator c = true → (∀ b ∈ text.getLast?, isBlank b = true) →
      motive text → motive (text ++ [c]))
    (plain : ∀ text c, isBlank c = false → isSeparator c = false → motive (text ++ [c]))
    (text : List Char) : motive text := by
  induction text using List.reverseRecOn with
  | nil => exact nil
  | append_singleton text c ih =>
    cases here : isBlank c with
    | true => exact blank text c here ih
    | false =>
      cases separator : isSeparator c with
      | false => exact plain text c here separator
      | true =>
        rcases blank_last_cases text with last | last
        · exact joins text c separator last ih
        · exact opens text c separator last ih

/-! ### The words of a text with one more character -/

theorem words_concat_of_blank (text : List Char) {c : Char} (blank : isBlank c = true) :
    words (text ++ [c]) = words text := by
  rw [words_append_blank text [] blank, words_nil, List.append_nil]

theorem words_singleton {c : Char} (solid : isBlank c = false) : words [c] = [[c]] :=
  words_of_solid (List.cons_ne_nil c []) (by simpa using solid)

/-- Behind a blank the next character is a new word. -/
theorem words_concat_of_gap {text : List Char} (last : ∀ b ∈ text.getLast?, isBlank b = true)
    {c : Char} (solid : isBlank c = false) : words (text ++ [c]) = words text ++ [[c]] := by
  rw [words_append_of_blank_last last, words_singleton solid]

/-- Behind a word the next character belongs to that word. -/
theorem words_concat_of_solid {text : List Char} (last : ∀ b ∈ text.getLast?, isBlank b = false)
    {c : Char} (solid : isBlank c = false) :
    words (text ++ [c]) = (words text).dropLast ++ [(words text).getLastD [] ++ [c]] := by
  by_cases empty : text = []
  · simpa [empty] using words_singleton solid
  · obtain ⟨before, word, _, filled, inside, all, goes_on⟩ := exists_last_word empty last
    have one : words (word ++ [c]) = [word ++ [c]] := by
      apply words_of_solid (by simp)
      intro d member
      rcases List.mem_append.mp member with here | here
      · exact inside d here
      · rw [List.mem_singleton.mp here]
        exact solid
    rw [goes_on, one, all]
    simp

/-! ### Words with one space between them -/

theorem intercalate_append {separator : List Char} {before after : List (List Char)}
    (filled : before ≠ []) (filled' : after ≠ []) :
    separator.intercalate (before ++ after) =
      separator.intercalate before ++ separator ++ separator.intercalate after := by
  induction before with
  | nil => exact absurd rfl filled
  | cons first rest ih =>
    rw [List.cons_append, List.intercalate_cons_of_ne_nil (by simp [filled'])]
    by_cases more : rest = []
    · simp [more]
    · rw [ih more, List.intercalate_cons_of_ne_nil more]
      simp

@[simp] theorem spaced_nil : spaced [] = [] := rfl

theorem spaced_concat_of_blank (text : List Char) {c : Char} (blank : isBlank c = true) :
    spaced (text ++ [c]) = spaced text := by
  rw [spaced, words_concat_of_blank text blank, spaced]

theorem spaced_concat_of_gap {text : List Char} (last : ∀ b ∈ text.getLast?, isBlank b = true)
    {c : Char} (solid : isBlank c = false) :
    words text = [] ∧ spaced (text ++ [c]) = [c] ∨
      spaced (text ++ [c]) = spaced text ++ [' '] ++ [c] := by
  rw [spaced, spaced, words_concat_of_gap last solid]
  by_cases none : words text = []
  · left
    simp [none]
  · right
    rw [intercalate_append none (List.cons_ne_nil [c] []), List.intercalate_singleton]

theorem spaced_concat_of_solid {text : List Char} (last : ∀ b ∈ text.getLast?, isBlank b = false)
    {c : Char} (solid : isBlank c = false) : spaced (text ++ [c]) = spaced text ++ [c] := by
  rw [spaced, spaced, words_concat_of_solid last solid]
  rcases List.eq_nil_or_concat' (words text) with none | ⟨before, word, all⟩
  · simp [none]
  · rw [all, List.dropLast_concat, List.getLastD_concat]
    by_cases none : before = []
    · simp [none]
    · simp [intercalate_append none]

/-- Whatever stands before it, a character that is no blank comes last. -/
theorem exists_spaced_concat (text : List Char) {c : Char} (solid : isBlank c = false) :
    ∃ before, spaced (text ++ [c]) = before ++ [c] := by
  rcases blank_last_cases text with last | last
  · exact ⟨_, spaced_concat_of_solid last solid⟩
  · rcases spaced_concat_of_gap last solid with ⟨_, alone⟩ | behind
    · exact ⟨[], alone⟩
    · exact ⟨_, behind⟩

theorem spaced_getLast (text : List Char) : ∀ c ∈ (spaced text).getLast?, isBlank c = false := by
  induction text using List.reverseRecOn with
  | nil => simp
  | append_singleton text c ih =>
    cases here : isBlank c with
    | true =>
      rw [spaced_concat_of_blank text here]
      exact ih
    | false =>
      obtain ⟨before, ends⟩ := exists_spaced_concat text here
      simp [ends, here]

theorem words_spaced (text : List Char) : words (spaced text) = words text := by
  induction text using List.reverseRecOn with
  | nil => rfl
  | append_singleton text c ih =>
    cases here : isBlank c with
    | true => rw [spaced_concat_of_blank text here, words_concat_of_blank text here, ih]
    | false =>
      rcases blank_last_cases text with last | last
      · -- Joined words end with no blank, so here too the character goes on with the last one.
        rw [spaced_concat_of_solid last here, words_concat_of_solid (spaced_getLast text) here,
          words_concat_of_solid last here, ih]
      · rw [words_concat_of_gap last here]
        rcases spaced_concat_of_gap last here with ⟨none, alone⟩ | behind
        · rw [alone, none, words_singleton here, List.nil_append]
        · rw [behind, words_concat_of_gap (by simp; decide) here,
            words_concat_of_blank _ (by decide), ih]

theorem spaced_spaced (text : List Char) : spaced (spaced text) = spaced text := by
  rw [spaced, words_spaced, spaced]

/-! ### How many groups there are -/

@[simp] theorem groups_nil : groups [] = 0 := rfl

theorem groups_concat_of_blank (text : List Char) {c : Char} (blank : isBlank c = true) :
    groups (text ++ [c]) = groups text := by
  have trailing : isTrailing c = true := by simp [isTrailing, blank]
  rw [groups, List.rtakeWhile_concat_pos _ _ c trailing, words_concat_of_blank _ blank, groups]

theorem groups_concat_of_plain (text : List Char) {c : Char} (solid : isBlank c = false)
    (plain : isSeparator c = false) : groups (text ++ [c]) = 0 := by
  rw [groups, List.rtakeWhile_concat_neg _ _ c (by simp [isTrailing, solid, plain]), words_nil,
    List.length_nil]

theorem rtakeWhile_concat_of_separator (text : List Char) {c : Char}
    (separator : isSeparator c = true) :
    (text ++ [c]).rtakeWhile isTrailing = text.rtakeWhile isTrailing ++ [c] :=
  List.rtakeWhile_concat_pos _ _ c (by simp [isTrailing, separator])

/-- What trails behind a text ends as the text does. -/
theorem mem_getLast?_of_trailing {text : List Char} {b : Char}
    (last : b ∈ (text.rtakeWhile isTrailing).getLast?) : b ∈ text.getLast? := by
  obtain ⟨before, split⟩ := List.rtakeWhile_suffix isTrailing text
  rw [← split, List.getLast?_append]
  exact Option.or_eq_some_iff.mpr (.inl last)

theorem groups_concat_of_gap {text : List Char} (last : ∀ b ∈ text.getLast?, isBlank b = true)
    {c : Char} (separator : isSeparator c = true) : groups (text ++ [c]) = groups text + 1 := by
  have behind := words_concat_of_gap (fun b here => last b (mem_getLast?_of_trailing here))
    (isBlank_of_isSeparator separator)
  rw [groups, rtakeWhile_concat_of_separator text separator, behind, List.length_append, groups,
    List.length_singleton]

theorem groups_concat_of_solid {text : List Char} (last : ∀ b ∈ text.getLast?, isBlank b = false)
    {c : Char} (separator : isSeparator c = true) :
    groups (text ++ [c]) = max 1 (groups text) := by
  have joined := words_concat_of_solid (fun b here => last b (mem_getLast?_of_trailing here))
    (isBlank_of_isSeparator separator)
  rw [groups, rtakeWhile_concat_of_separator text separator, joined, List.length_append, groups,
    List.length_singleton, List.length_dropLast]
  omega

theorem groups_spaced (text : List Char) : groups (spaced text) = groups text := by
  induction text using trailing_induction with
  | nil => rfl
  | blank text c here ih => rw [spaced_concat_of_blank text here, groups_concat_of_blank text here, ih]
  | joins text c separator last ih =>
    rw [spaced_concat_of_solid last (isBlank_of_isSeparator separator),
      groups_concat_of_solid (spaced_getLast text) separator,
      groups_concat_of_solid last separator, ih]
  | opens text c separator last ih =>
    -- Without a word before it no blank comes before the separator, but no group does either.
    rw [groups_concat_of_gap last separator, ← ih]
    rcases spaced_concat_of_gap last (isBlank_of_isSeparator separator) with ⟨none, alone⟩ | behind
    · have first : groups ([] ++ [c]) = groups [] + 1 := groups_concat_of_gap (by simp) separator
      rw [alone, spaced, none]
      exact first
    · rw [behind, groups_concat_of_gap (by simp; decide) separator,
        groups_concat_of_blank _ (by decide)]
  | plain text c solid plain =>
    obtain ⟨before, ends⟩ := exists_spaced_concat text solid
    rw [ends, groups_concat_of_plain before solid plain, groups_concat_of_plain text solid plain]

/-- A text that ends with no blank ends with a separator exactly if it ends with a group. -/
theorem separator_last_iff {text : List Char} (last : ∀ b ∈ text.getLast?, isBlank b = false) :
    (∃ c ∈ text.getLast?, isSeparator c = true) ↔ groups text ≠ 0 := by
  rcases List.eq_nil_or_concat' text with rfl | ⟨before, c, rfl⟩
  · simp
  · have solid : isBlank c = false := last c (by simp)
    rw [List.getLast?_concat]
    cases separator : isSeparator c with
    | false => simp [separator, groups_concat_of_plain before solid separator]
    | true =>
      rcases blank_last_cases before with here | here
      · simp [separator, groups_concat_of_solid here separator]
      · simp [separator, groups_concat_of_gap here separator]

/-! ### What the normal form cuts off -/

theorem rdropWhile_of_last {drop : Char → Bool} {text : List Char}
    (last : ∀ c ∈ text.getLast?, drop c = false) : text.rdropWhile drop = text := by
  rw [List.rdropWhile_eq_self_iff]
  intro filled
  simpa using last _ (List.getLast?_eq_some_getLast filled)

theorem normalForm_concat_of_blank (text : List Char) {c : Char} (blank : isBlank c = true) :
    normalForm (text ++ [c]) = normalForm text := by
  rw [normalForm_eq, spaced_concat_of_blank text blank, normalForm_eq]

theorem normalForm_concat_of_solid {text : List Char}
    (last : ∀ b ∈ text.getLast?, isBlank b = false) {c : Char} (separator : isSeparator c = true) :
    normalForm (text ++ [c]) = normalForm text := by
  rw [normalForm_eq, spaced_concat_of_solid last (isBlank_of_isSeparator separator),
    List.rdropWhile_concat_pos _ _ c separator, normalForm_eq]

/-- A separator that opens a group is cut off with the blank before it, and with nothing else. -/
theorem normalForm_concat_of_gap {text : List Char}
    (last : ∀ b ∈ text.getLast?, isBlank b = true) {c : Char} (separator : isSeparator c = true) :
    normalForm (text ++ [c]) = spaced text := by
  rw [normalForm_eq]
  rcases spaced_concat_of_gap last (isBlank_of_isSeparator separator) with ⟨none, alone⟩ | behind
  · rw [alone, List.rdropWhile_singleton, if_pos separator, spaced, none]
    rfl
  · rw [behind, List.rdropWhile_concat_pos _ _ c separator,
      List.rdropWhile_concat_neg _ _ ' ' (by decide), List.rdropWhile_concat_pos _ _ ' ' (by decide),
      rdropWhile_of_last (spaced_getLast text)]

theorem normalForm_concat_of_plain (text : List Char) {c : Char} (solid : isBlank c = false)
    (plain : isSeparator c = false) : normalForm (text ++ [c]) = spaced (text ++ [c]) := by
  obtain ⟨before, ends⟩ := exists_spaced_concat text solid
  rw [normalForm_eq, ends, List.rdropWhile_concat_neg _ _ c (by simp [plain]),
    List.rdropWhile_concat_neg _ _ c (by simp [solid])]

/-- The normal form is what is left of the joined words when separators, and then blanks, are cut
off their end. -/
theorem exists_normalForm_append (text : List Char) :
    ∃ blanks separators, normalForm text ++ (blanks ++ separators) = spaced text ∧
      (∀ c ∈ blanks, isBlank c = true) ∧ ∀ c ∈ separators, isSeparator c = true := by
  refine ⟨((spaced text).rdropWhile isSeparator).rtakeWhile isBlank,
    (spaced text).rtakeWhile isSeparator, ?_, fun _ => List.mem_rtakeWhile_imp,
    fun _ => List.mem_rtakeWhile_imp⟩
  rw [normalForm_eq, ← List.append_assoc, List.rdropWhile_append_rtakeWhile,
    List.rdropWhile_append_rtakeWhile]

theorem normalForm_begins (text : List Char) : normalForm text <+: spaced text := by
  obtain ⟨blanks, separators, whole, _⟩ := exists_normalForm_append text
  exact ⟨blanks ++ separators, whole⟩

theorem normalForm_eq_spaced_iff (text : List Char) :
    normalForm text = spaced text ↔ groups text = 0 := by
  have shorter (text : List Char) (c : Char) : normalForm text ≠ spaced text ++ [c] := by
    intro same
    have bound := (normalForm_begins text).length_le
    rw [same, List.length_append, List.length_singleton] at bound
    omega
  induction text using trailing_induction with
  | nil => simp [normalForm_eq]
  | blank text c here ih =>
    rw [normalForm_concat_of_blank text here, spaced_concat_of_blank text here,
      groups_concat_of_blank text here]
    exact ih
  | joins text c separator last _ =>
    rw [normalForm_concat_of_solid last separator, groups_concat_of_solid last separator,
      spaced_concat_of_solid last (isBlank_of_isSeparator separator)]
    exact iff_of_false (shorter text c) (by omega)
  | opens text c separator last _ =>
    rw [normalForm_concat_of_gap last separator, groups_concat_of_gap last separator]
    rcases spaced_concat_of_gap last (isBlank_of_isSeparator separator) with ⟨none, alone⟩ | behind
    · rw [alone, spaced, none]
      simp
    · rw [behind]
      simp
  | plain text c solid plain =>
    exact iff_of_true (normalForm_concat_of_plain text solid plain)
      (groups_concat_of_plain text solid plain)

theorem spaced_normalForm (text : List Char) : spaced (normalForm text) = normalForm text := by
  induction text using trailing_induction with
  | nil => rfl
  | blank text c here ih => rw [normalForm_concat_of_blank text here, ih]
  | joins text c separator last ih => rw [normalForm_concat_of_solid last separator, ih]
  | opens text c separator last _ => rw [normalForm_concat_of_gap last separator, spaced_spaced]
  | plain text c solid plain => rw [normalForm_concat_of_plain text solid plain, spaced_spaced]

/-- The last group is cut off, and no other. -/
theorem groups_normalForm (text : List Char) : groups (normalForm text) = groups text - 1 := by
  induction text using trailing_induction with
  | nil => rfl
  | blank text c here ih =>
    rw [normalForm_concat_of_blank text here, groups_concat_of_blank text here, ih]
  | joins text c separator last ih =>
    rw [normalForm_concat_of_solid last separator, groups_concat_of_solid last separator, ih]
    omega
  | opens text c separator last _ =>
    rw [normalForm_concat_of_gap last separator, groups_concat_of_gap last separator, groups_spaced]
    omega
  | plain text c solid plain =>
    rw [normalForm_concat_of_plain text solid plain, groups_spaced,
      groups_concat_of_plain text solid plain]

/-- How the normal form and the number of groups change while separators and blanks are put behind
a text: both only grow, and the normal form grows as soon as one more group comes behind another. -/
structure Trails (text longer : List Char) : Prop where
  grown : normalForm text <+: normalForm longer
  gained : groups text ≤ groups longer
  same_iff : normalForm longer = normalForm text ↔ groups longer ≤ max 1 (groups text)

theorem Trails.of_same {text longer : List Char} (same : normalForm longer = normalForm text)
    (gained : groups text ≤ groups longer) (few : groups longer ≤ max 1 (groups text)) :
    Trails text longer :=
  ⟨same ▸ List.prefix_rfl, gained, iff_of_true same few⟩

theorem trails_concat (text : List Char) {c : Char} (trailing : isTrailing c = true) :
    Trails text (text ++ [c]) := by
  cases here : isBlank c with
  | true =>
    have count := groups_concat_of_blank text here
    exact .of_same (normalForm_concat_of_blank text here) (by omega) (by omega)
  | false =>
    have separator : isSeparator c = true := by simpa [isTrailing, here] using trailing
    rcases blank_last_cases text with last | last
    · have count := groups_concat_of_solid last separator
      exact .of_same (normalForm_concat_of_solid last separator) (by omega) (by omega)
    · have all := normalForm_concat_of_gap last separator
      have count := groups_concat_of_gap last separator
      refine ⟨all ▸ normalForm_begins text, by omega, ?_⟩
      rw [all, eq_comm, normalForm_eq_spaced_iff, count]
      omega

theorem Trails.trans {text longer longest : List Char} (first : Trails text longer)
    (second : Trails longer longest) : Trails text longest := by
  refine ⟨first.grown.trans second.grown, first.gained.trans second.gained, ?_⟩
  have counts := first.gained
  have more := second.gained
  constructor
  · intro same
    -- What lies between a text and itself is the text.
    have between : normalForm longer = normalForm text :=
      (first.grown.eq_of_length_le (same ▸ second.grown.length_le)).symm
    have here := first.same_iff.mp between
    have there := second.same_iff.mp (same.trans between.symm)
    omega
  · intro few
    rw [second.same_iff.mpr (by omega), first.same_iff.mpr (by omega)]

theorem trails_append (text : List Char) {more : List Char}
    (trailing : ∀ c ∈ more, isTrailing c = true) : Trails text (text ++ more) := by
  induction more generalizing text with
  | nil =>
    rw [List.append_nil]
    exact .of_same rfl le_rfl (by omega)
  | cons c rest ih =>
    have first := trails_concat text (trailing c List.mem_cons_self)
    have further := ih (text ++ [c]) fun d member => trailing d (List.mem_cons_of_mem c member)
    rw [List.append_assoc, List.singleton_append] at further
    exact first.trans further

/-- Separators and blanks behind a text change its normal form exactly if they open a group behind
another one. The normal form has one group less than the text; so it ends with a separator if the
text has two groups or more, and these are the texts that are not normalized at once. -/
theorem normalize_cuts_one_group (text : String) :
    (∀ more : String, (∀ c ∈ more.toList, isBlank c = true ∨ isSeparator c = true) →
      (normalize (text ++ more) = normalize text ↔
        groups (text ++ more).toList ≤ max 1 (groups text.toList))) ∧
    groups (normalize text).toList = groups text.toList - 1 ∧
    ((∃ c ∈ (normalize text).toList.getLast?, isSeparator c = true) ↔ 2 ≤ groups text.toList) ∧
    (normalize (normalize text) = normalize text ↔ groups text.toList ≤ 1) := by
  have chars (text : String) : (normalize text).toList = normalForm text.toList :=
    String.toList_ofList
  have normalize_eq_iff (left right : String) :
      normalize left = normalize right ↔ normalForm left.toList = normalForm right.toList := by
    rw [← String.toList_inj, chars, chars]
  have count := groups_normalForm text.toList
  refine ⟨fun more trailing => ?_, ?_, ?_, ?_⟩
  · -- One character after the other, from the text to the longer one.
    rw [normalize_eq_iff, String.toList_append]
    refine (trails_append text.toList fun c member => ?_).same_iff
    simpa [isTrailing] using trailing c member
  · rw [chars, count]
  · have last := spaced_getLast (normalForm text.toList)
    rw [spaced_normalForm] at last
    rw [chars, separator_last_iff last, count]
    omega
  · have settled := normalForm_eq_spaced_iff (normalForm text.toList)
    rw [spaced_normalForm, count] at settled
    rw [normalize_eq_iff, chars, settled]
    omega

/-- Two groups: a separator that is put behind `a;` and a blank shows, and the normal form of the
whole is no normal form. -/
theorem normalize_cuts_one_group_twice :
    (∀ c ∈ " ;".toList, isBlank c = true ∨ isSeparator c = true) ∧
    normalize "a;" = "a" ∧ normalize ("a;" ++ " ;") = "a;" ∧
    normalize ("a;" ++ " ;") ≠ normalize "a;" ∧
    normalize (normalize "a; ;") ≠ normalize "a; ;" := by
  have trailing : ∀ c ∈ " ;".toList, isBlank c = true ∨ isSeparator c = true := by
    have chars : " ;".toList = [' ', ';'] := by decide
    rw [chars, List.forall_mem_cons, List.forall_mem_singleton]
    decide
  obtain ⟨appended, _⟩ := normalize_cuts_one_group "a;"
  obtain ⟨_, _, _, again⟩ := normalize_cuts_one_group "a; ;"
  refine ⟨trailing, by decide +kernel, by decide +kernel, ?_, ?_⟩
  · rw [ne_eq, appended " ;" trailing]
    decide +kernel
  · rw [ne_eq, again]
    decide +kernel

end DeclMerge.Text
