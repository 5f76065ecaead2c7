import DeclMerge.Proofs.Text.Separators

/-!
# Blanks in quotes

Joining words makes every run of blanks between them one space, in a quoted text as anywhere else:
what stands in the quotes is squeezed (`spaced_quoted`). So the normal form of an equation with a
literal tells two contents apart exactly if they differ in more than the lengths of their runs of
blanks and the blanks that these are made of (`normalize_literal_iff`).
-/
namespace DeclMerge.Text

/-- The text with a single space for every run of blanks. -/
def squeeze : List Char → List Char
  | [] => []
  | c :: rest =>
    -- A run is written at its last blank.
    if isBlank c then if rest.head?.any isBlank then squeeze rest else ' ' :: squeeze rest
    else c :: squeeze rest

theorem squeeze_cons_of_solid {c : Char} (solid : isBlank c = false) (rest : List Char) :
    squeeze (c :: rest) = c :: squeeze rest := by
  simp [squeeze, solid]

theorem squeeze_concat_of_solid (text : List Char) {c : Char} (solid : isBlank c = false) :
    squeeze (text ++ [c]) = squeeze text ++ [c] := by
  induction text with
  | nil => exact squeeze_cons_of_solid solid []
  | cons first rest ih =>
    -- Another character behind the text does not make it go on with a blank.
    have next : (rest ++ [c]).head?.any isBlank = rest.head?.any isBlank := by
      cases rest <;> simp [solid]
    rw [List.cons_append, squeeze, squeeze, next, ih]
    split
    · split <;> simp
    · simp

theorem squeeze_of_solid {text : List Char} (solid : ∀ c ∈ text, isBlank c = false) :
    squeeze text = text := by
  induction text with
  | nil => rfl
  | cons c rest ih =>
    rw [squeeze_cons_of_solid (solid c List.mem_cons_self),
      ih fun d member => solid d (List.mem_cons_of_mem c member)]

/-! ### The words of a text with one more character in front -/

theorem words_cons_of_gap {c : Char} (solid : isBlank c = false) {rest : List Char}
    (head : ∀ b ∈ rest.head?, isBlank b = true) : words (c :: rest) = [c] :: words rest := by
  have split := words_append_of_blank_head [c] head
  rwa [words_singleton solid] at split

/-- In front of a word a character belongs to that word. -/
theorem words_cons_of_solid {c : Char} (solid : isBlank c = false) {rest : List Char}
    (filled : rest ≠ []) (head : ∀ b ∈ rest.head?, isBlank b = false) :
    ∃ word after, words rest = word :: after ∧ words (c :: rest) = (c :: word) :: after := by
  obtain ⟨word, after, rfl, some, inside, stops, all⟩ := exists_first_word filled head
  refine ⟨word, words after, all, ?_⟩
  have longer : ∀ d ∈ c :: word, isBlank d = false := by
    simpa using ⟨solid, inside⟩
  rw [← List.cons_append, words_append_of_blank_head _ stops,
    words_of_solid (List.cons_ne_nil c word) longer]
  rfl

theorem words_ne_nil {text : List Char} (filled : text ≠ [])
    (last : ∀ c ∈ text.getLast?, isBlank c = false) : words text ≠ [] :=
  fun none => filled (eq_nil_of_words_eq_nil last none)

theorem spaced_cons_of_solid {c : Char} (solid : isBlank c = false) {rest : List Char}
    (filled : rest ≠ []) (head : ∀ b ∈ rest.head?, isBlank b = false) :
    spaced (c :: rest) = c :: spaced rest := by
  obtain ⟨word, after, all, longer⟩ := words_cons_of_solid solid filled head
  rw [spaced, spaced, all, longer]
  by_cases none : after = []
  · simp [none]
  · rw [List.intercalate_cons_of_ne_nil none, List.intercalate_cons_of_ne_nil none]
    rfl

theorem spaced_cons_of_gap {c : Char} (solid : isBlank c = false) {rest : List Char}
    (more : words rest ≠ []) (head : ∀ b ∈ rest.head?, isBlank b = true) :
    spaced (c :: rest) = c :: ' ' :: spaced rest := by
  rw [spaced, words_cons_of_gap solid head, List.intercalate_cons_of_ne_nil more]
  rfl

/-- Up to a last character that is no blank, squeezing is joining words, and a blank in front of
the first word is kept. -/
theorem squeeze_eq {text : List Char} (filled : text ≠ [])
    (last : ∀ c ∈ text.getLast?, isBlank c = false) :
    squeeze text = if text.head?.any isBlank then ' ' :: spaced text else spaced text := by
  induction text with
  | nil => exact absurd rfl filled
  | cons c rest ih =>
    by_cases none : rest = []
    · have solid : isBlank c = false := last c (by simp [none])
      simp [none, squeeze, solid, spaced, words_singleton solid]
    have ends : ∀ d ∈ rest.getLast?, isBlank d = false := by
      intro d here
      apply last
      rw [List.getLast?_cons, Option.mem_def.mp here]
      rfl
    -- By now the text has two characters at least, so it is known whether a run goes on.
    have further := ih none ends
    have more := words_ne_nil none ends
    obtain ⟨d, others, rfl⟩ := List.exists_cons_of_ne_nil none
    have head (value : Bool) (is : isBlank d = value) :
        ∀ b ∈ (d :: others).head?, isBlank b = value := by simpa using is
    cases blank : isBlank c with
    | false =>
      rw [squeeze_cons_of_solid blank, further]
      cases next : isBlank d with
      | false =>
        rw [spaced_cons_of_solid blank none (head false next)]
        simp [blank, next]
      | true =>
        rw [spaced_cons_of_gap blank more (head true next)]
        simp [blank, next]
    | true =>
      have same : spaced (c :: d :: others) = spaced (d :: others) := by
        rw [spaced, words_blank_cons _ blank, spaced]
      rw [squeeze, further, same]
      cases next : isBlank d <;> simp [blank, next]

/-- Between marks that are no blanks a text is squeezed. -/
theorem spaced_quoted {mark : Char} (solid : isBlank mark = false) (content : List Char) :
    spaced (mark :: (content ++ [mark])) = mark :: (squeeze content ++ [mark]) := by
  have squeezed := squeeze_eq (List.cons_ne_nil mark (content ++ [mark]))
    (by simp [List.getLast?_cons, solid])
  rw [squeeze_cons_of_solid solid, squeeze_concat_of_solid content solid] at squeezed
  simpa [solid] using squeezed.symm

/-- A string literal with this content. -/
def literal (content : String) : String := "\"" ++ content ++ "\""

/-- The normal form of an equation with a literal. -/
theorem normalForm_literal (left content : String) :
    normalForm (left ++ " = " ++ literal content).toList =
      [' '].intercalate (words left.toList ++ [['=']]) ++ [' '] ++
        '"' :: (squeeze content.toList ++ ['"']) := by
  have chars : (literal content).toList = '"' :: (content.toList ++ ['"']) := by
    simp [literal, String.toList_append]
  have mark : isBlank '"' = false := by decide
  have ends : (left ++ " = " ++ literal content).toList =
      (left ++ " = ").toList ++ '"' :: content.toList ++ ['"'] := by
    rw [String.toList_append, chars]
    simp
  have filled : words (literal content).toList ≠ [] := by
    rw [chars]
    exact words_ne_nil (List.cons_ne_nil _ _) (by simp [List.getLast?_cons, mark])
  -- The closing quote is no separator, so nothing is cut off.
  rw [ends, normalForm_concat_of_plain _ mark (by decide), ← ends, spaced, words_equation,
    intercalate_append (by simp) filled, chars, ← spaced_quoted mark, spaced]

theorem normalize_literal_iff (left content other : String) :
    normalize (left ++ " = " ++ literal content) = normalize (left ++ " = " ++ literal other) ↔
      squeeze content.toList = squeeze other.toList := by
  rw [normalize, normalize, String.ofList_inj, normalForm_literal, normalForm_literal]
  simp

end DeclMerge.Text
