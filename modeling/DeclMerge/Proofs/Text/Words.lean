import DeclMerge.Text.Signature
import Mathlib.Data.List.Basic

/-!
# Texts with the same words

Two texts with the same words differ in their blanks alone. Put together from parts, they keep the
same words as long as no part begins or ends with a blank, because then the last word of one part
and the first word of the next become one word on both sides (`words_append_congr`). Cut in two
behind as many characters, blanks not counted, they keep the same words before the cut, wherever
the blanks at the cut fall (`words_of_cut`).
-/
namespace DeclMerge.Text

variable {text before after : List Char}

/-- A text that neither begins nor ends with a blank. -/
structure Trimmed (text : List Char) : Prop where
  head : ∀ c ∈ text.head?, isBlank c = false
  last : ∀ c ∈ text.getLast?, isBlank c = false

theorem Trimmed.nil : Trimmed [] := ⟨by simp, by simp⟩

theorem trimmed_iff (text : List Char) :
    text.head?.all (!isBlank ·) ∧ text.getLast?.all (!isBlank ·) ↔ Trimmed text := by
  have each (edge : Option Char) :
      edge.all (!isBlank ·) = true ↔ ∀ c ∈ edge, isBlank c = false := by
    cases edge <;> simp
  rw [each, each]
  exact ⟨fun ⟨head, last⟩ => ⟨head, last⟩, fun ⟨head, last⟩ => ⟨head, last⟩⟩

instance (text : List Char) : Decidable (Trimmed text) := decidable_of_iff _ (trimmed_iff text)

theorem Trimmed.append (left : Trimmed before) (right : Trimmed after) :
    Trimmed (before ++ after) := by
  refine ⟨fun c first => ?_, fun c last => ?_⟩
  · rw [List.head?_append] at first
    rcases Option.or_eq_some_iff.mp first with here | ⟨_, there⟩
    · exact left.head c here
    · exact right.head c there
  · rw [List.getLast?_append] at last
    rcases Option.or_eq_some_iff.mp last with here | ⟨_, there⟩
    · exact right.last c here
    · exact left.last c there

/-! ### Where words meet -/

theorem words_append_of_blank_last (blank : ∀ c ∈ before.getLast?, isBlank c = true)
    (after : List Char) : words (before ++ after) = words before ++ words after := by
  rcases List.eq_nil_or_concat' before with rfl | ⟨start, c, rfl⟩
  · rfl
  · have here := blank c (by simp)
    have alone : words (start ++ [c]) = words start := by
      rw [words_append_blank start [] here, words_nil, List.append_nil]
    rw [alone, List.append_assoc, List.singleton_append, words_append_blank start after here]

theorem words_append_of_blank_head (before : List Char)
    (blank : ∀ c ∈ after.head?, isBlank c = true) :
    words (before ++ after) = words before ++ words after := by
  cases after with
  | nil => simp
  | cons c rest =>
    have here := blank c rfl
    rw [words_append_blank before rest here, words_blank_cons rest here]

/-- The last word of a text that does not end with a blank. -/
theorem exists_last_word (nonempty : text ≠ [])
    (last : ∀ c ∈ text.getLast?, isBlank c = false) :
    ∃ before word, text = before ++ word ∧ word ≠ [] ∧ (∀ c ∈ word, isBlank c = false) ∧
      words text = words before ++ [word] ∧ ∀ rest, words (text ++ rest) =
        words before ++ words (word ++ rest) := by
  let solid (c : Char) : Bool := !isBlank c
  let before := (text.reverse.dropWhile solid).reverse
  let word := (text.reverse.takeWhile solid).reverse
  have split : text = before ++ word := by
    rw [← List.reverse_append, List.takeWhile_append_dropWhile, List.reverse_reverse]
  have blank : ∀ c ∈ before.getLast?, isBlank c = true := by
    intro c here
    rw [List.getLast?_reverse] at here
    have stops := List.head?_dropWhile_not solid text.reverse
    rw [here] at stops
    simpa [solid] using stops
  have inside : ∀ c ∈ word, isBlank c = false := by
    intro c member
    have kept := List.all_eq_true.mp List.all_takeWhile c (List.mem_reverse.mp member)
    simpa [solid] using kept
  have filled : word ≠ [] := by
    intro none
    rw [none, List.append_nil] at split
    obtain ⟨c, ends⟩ : ∃ c, text.getLast? = some c := ⟨_, List.getLast?_eq_some_getLast nonempty⟩
    have solid_end := last c ends
    rw [split] at ends
    exact absurd (blank c ends) (by simp [solid_end])
  refine ⟨before, word, split, filled, inside, ?_, fun rest => ?_⟩
  · rw [split, words_append_of_blank_last blank, words_of_solid filled inside]
  · rw [split, List.append_assoc, words_append_of_blank_last blank]

/-- A word goes on up to the next blank. -/
theorem words_solid_append {word : List Char} (filled : word ≠ [])
    (solid : ∀ c ∈ word, isBlank c = false) (rest : List Char) :
    words (word ++ rest) =
      (word ++ rest.takeWhile (!isBlank ·)) :: words (rest.dropWhile (!isBlank ·)) := by
  have blank : ∀ c ∈ (rest.dropWhile (!isBlank ·)).head?, isBlank c = true := by
    intro c here
    have stops := List.head?_dropWhile_not (!isBlank ·) rest
    rw [here] at stops
    simpa using stops
  have one : words (word ++ rest.takeWhile (!isBlank ·)) =
      [word ++ rest.takeWhile (!isBlank ·)] := by
    refine words_of_solid (by simp [filled]) fun c member => ?_
    rcases List.mem_append.mp member with here | here
    · exact solid c here
    · simpa using List.all_eq_true.mp List.all_takeWhile c here
  calc words (word ++ rest)
      = words ((word ++ rest.takeWhile (!isBlank ·)) ++ rest.dropWhile (!isBlank ·)) := by
        rw [List.append_assoc, List.takeWhile_append_dropWhile]
    _ = _ := by rw [words_append_of_blank_head _ blank, one, List.singleton_append]

/-- The first word of a text that does not begin with a blank. -/
theorem exists_first_word (nonempty : text ≠ [])
    (head : ∀ c ∈ text.head?, isBlank c = false) :
    ∃ word after, text = word ++ after ∧ word ≠ [] ∧ (∀ c ∈ word, isBlank c = false) ∧
      (∀ c ∈ after.head?, isBlank c = true) ∧ words text = word :: words after := by
  obtain ⟨c, rest, rfl⟩ := List.exists_cons_of_ne_nil nonempty
  have solid := head c rfl
  have inside : ∀ d ∈ c :: rest.takeWhile (!isBlank ·), isBlank d = false := by
    intro d member
    rcases List.mem_cons.mp member with rfl | further
    · exact solid
    · simpa using List.all_eq_true.mp List.all_takeWhile d further
  refine ⟨c :: rest.takeWhile (!isBlank ·), rest.dropWhile (!isBlank ·), ?_,
    List.cons_ne_nil _ _, inside, fun d here => ?_, ?_⟩
  · rw [List.cons_append, List.takeWhile_append_dropWhile]
  · have stops := List.head?_dropWhile_not (!isBlank ·) rest
    rw [here] at stops
    simpa using stops
  · exact words_solid_append (List.cons_ne_nil c []) (by simpa using solid) rest

theorem eq_nil_of_words_eq_nil (last : ∀ c ∈ text.getLast?, isBlank c = false)
    (none : words text = []) : text = [] := by
  by_contra nonempty
  obtain ⟨before, word, _, _, _, all, _⟩ := exists_last_word nonempty last
  rw [none] at all
  simp at all

theorem Trimmed.words_eq_nil_iff (trimmed : Trimmed text) : words text = [] ↔ text = [] :=
  ⟨eq_nil_of_words_eq_nil trimmed.last, fun none => by rw [none, words_nil]⟩

/-- A trimmed text of one word is the word. -/
theorem Trimmed.eq_of_words {word : List Char} (trimmed : Trimmed text)
    (one : words text = [word]) : text = word := by
  have nonempty : text ≠ [] := by
    rintro rfl
    cases one
  obtain ⟨first, after, rfl, _, _, _, all⟩ := exists_first_word nonempty trimmed.head
  obtain ⟨rfl, none⟩ := List.cons.inj (all.symm.trans one)
  have ends : ∀ c ∈ after.getLast?, isBlank c = false := by
    intro c last
    refine trimmed.last c ?_
    rw [List.getLast?_append]
    exact Option.or_eq_some_iff.mpr (.inl last)
  rw [eq_nil_of_words_eq_nil ends none, List.append_nil]

/-- Parts with the same words make texts with the same words. -/
theorem words_append_congr {left left' right right' : List Char} (begins : Trimmed left)
    (begins' : Trimmed left') (ends : Trimmed right) (ends' : Trimmed right')
    (first : words left = words left') (second : words right = words right') :
    words (left ++ right) = words (left' ++ right') := by
  by_cases empty : left = []
  · have empty' : left' = [] := by rw [← begins'.words_eq_nil_iff, ← first, empty, words_nil]
    rw [empty, empty', List.nil_append, List.nil_append, second]
  by_cases none : right = []
  · have none' : right' = [] := by rw [← ends'.words_eq_nil_iff, ← second, none, words_nil]
    rw [none, none', List.append_nil, List.append_nil, first]
  have filled : left' ≠ [] := by rwa [ne_eq, ← begins'.words_eq_nil_iff, ← first,
    begins.words_eq_nil_iff]
  have filled' : right' ≠ [] := by rwa [ne_eq, ← ends'.words_eq_nil_iff, ← second,
    ends.words_eq_nil_iff]
  -- What meets is the last word on the left and the first word on the right.
  obtain ⟨before, last, _, some, solid, all, goes_on⟩ := exists_last_word empty begins.last
  obtain ⟨before', last', _, _, _, all', goes_on'⟩ := exists_last_word filled begins'.last
  obtain ⟨next, after, rfl, _, solid', blank, rest⟩ := exists_first_word none ends.head
  obtain ⟨next', after', rfl, _, _, blank', rest'⟩ := exists_first_word filled' ends'.head
  rw [all, all'] at first
  rw [rest, rest'] at second
  obtain ⟨start, ⟨⟩⟩ := List.append_inj' first rfl
  obtain ⟨rfl, stop⟩ := List.cons.inj second
  have one : words (last ++ next) = [last ++ next] := by
    refine words_of_solid (by simp [some]) fun c member => ?_
    rcases List.mem_append.mp member with here | here
    · exact solid c here
    · exact solid' c here
  rw [goes_on, goes_on', ← List.append_assoc, ← List.append_assoc,
    words_append_of_blank_head _ blank, words_append_of_blank_head _ blank', one, start, stop]

/-- A sign between blanks is a word of its own. -/
theorem words_equation (left right : String) :
    words (left ++ " = " ++ right).toList =
      words left.toList ++ [['=']] ++ words right.toList := by
  have sign : " = ".toList ++ right.toList = ' ' :: (['='] ++ ' ' :: right.toList) := rfl
  have solid : ∀ c ∈ ['='], isBlank c = false := by simp; decide
  rw [String.toList_append, String.toList_append, List.append_assoc, sign,
    words_append_blank _ _ rfl, words_append_blank _ _ rfl,
    words_of_solid (List.cons_ne_nil _ _) solid, List.append_assoc]

/-! ### Cuts -/

/-- How many characters are no blanks. -/
def solidCount (text : List Char) : Nat := text.countP (!isBlank ·)

/-- The words that the first `count` characters make, blanks not counted. -/
def leading : Nat → List (List Char) → List (List Char)
  | 0, _ | _, [] => []
  | count + 1, word :: rest => word.take (count + 1) :: leading (count + 1 - word.length) rest

theorem solidCount_append (before after : List Char) :
    solidCount (before ++ after) = solidCount before + solidCount after := List.countP_append

theorem solidCount_of_solid {word : List Char} (solid : ∀ c ∈ word, isBlank c = false) :
    solidCount word = word.length :=
  List.countP_eq_length.mpr fun c member => by simp [solid c member]

theorem leading_of_le {count : Nat} {word : List Char} (filled : word ≠ [])
    (short : word.length ≤ count) (rest : List (List Char)) :
    leading count (word :: rest) = word :: leading (count - word.length) rest := by
  have some := List.length_pos_of_ne_nil filled
  obtain ⟨less, rfl⟩ : ∃ less, count = less + 1 := ⟨count - 1, by omega⟩
  rw [leading, List.take_of_length_le short]

/-- The cut goes through the first word. -/
theorem leading_append {word : List Char} (filled : word ≠ []) (more : List Char)
    (rest : List (List Char)) : leading word.length ((word ++ more) :: rest) = [word] := by
  have some := List.length_pos_of_ne_nil filled
  obtain ⟨less, same⟩ : ∃ less, word.length = less + 1 := ⟨word.length - 1, by omega⟩
  have none : word.length - (word ++ more).length = 0 := by
    rw [List.length_append]
    omega
  rw [same, leading, ← same, none, List.take_left, leading.eq_1]

/-- The words before a cut are decided by the words of the whole and by how many characters the
cut leaves, blanks not counted. -/
theorem words_eq_leading (head tail : List Char) :
    words head = leading (solidCount head) (words (head ++ tail)) := by
  -- Word by word; the last one may go on behind the cut.
  match head with
  | [] => rw [words_nil, solidCount, List.countP_nil, leading]
  | c :: rest =>
    by_cases blank : isBlank c = true
    · have same : solidCount (c :: rest) = solidCount rest :=
        List.countP_cons_of_neg (by simp [blank])
      rw [same, words_blank_cons rest blank, List.cons_append,
        words_blank_cons (rest ++ tail) blank]
      exact words_eq_leading rest tail
    · obtain ⟨word, after, split, filled, solid, stops, all⟩ :=
        exists_first_word (List.cons_ne_nil c rest) (by simpa using blank)
      have some := List.length_pos_of_ne_nil filled
      rw [all, split, solidCount_append, solidCount_of_solid solid]
      cases after with
      | nil =>
        rw [List.append_nil, words_solid_append filled solid, solidCount, List.countP_nil,
          Nat.add_zero, leading_append filled, words_nil]
      | cons b more =>
        have shorter : (b :: more).length < (c :: rest).length := by
          rw [split, List.length_append]
          omega
        have begins : ∀ d ∈ (b :: more ++ tail).head?, isBlank d = true := by
          intro d here
          exact stops d (by simpa using here)
        rw [List.append_assoc, words_append_of_blank_head word begins,
          words_of_solid filled solid, List.singleton_append,
          leading_of_le filled (Nat.le_add_right ..), Nat.add_sub_cancel_left,
          ← words_eq_leading (b :: more) tail]
termination_by head.length
decreasing_by
  · exact Nat.lt_succ_self _
  · exact shorter

/-- Cut behind as many characters, blanks not counted, texts with the same words have the same
words before the cut. -/
theorem words_of_cut {head tail head' tail' : List Char}
    (same : words (head ++ tail) = words (head' ++ tail'))
    (count : solidCount head = solidCount head') : words head = words head' := by
  rw [words_eq_leading head tail, words_eq_leading head' tail', same, count]

/-! ### Spellings -/

/-- Texts that differ in the blanks between their words alone. -/
structure Respelled (left right : String) : Prop where
  words : words left.toList = words right.toList
  left : Trimmed left.toList
  right : Trimmed right.toList

instance (left right : String) : Decidable (Respelled left right) :=
  decidable_of_iff (words left.toList = words right.toList ∧ Trimmed left.toList ∧
    Trimmed right.toList) ⟨fun h => ⟨h.1, h.2.1, h.2.2⟩, fun h => ⟨h.words, h.left, h.right⟩⟩

namespace Respelled

theorem empty : Respelled "" "" := ⟨rfl, .nil, .nil⟩

variable {left right left' right' : String} (first : Respelled left left')

include first

theorem append (second : Respelled right right') : Respelled (left ++ right) (left' ++ right') := by
  refine ⟨?_, ?_, ?_⟩
  · rw [String.toList_append, String.toList_append]
    exact words_append_congr first.left first.right second.left second.right first.words
      second.words
  · rw [String.toList_append]
    exact first.left.append second.left
  · rw [String.toList_append]
    exact first.right.append second.right

/-- A text of one word has one spelling. -/
theorem eq_of_solid (solid : ∀ c ∈ left.toList, isBlank c = false) : left' = left := by
  refine String.toList_inj.mp ?_
  by_cases empty : left.toList = []
  · rw [empty]
    refine first.right.words_eq_nil_iff.mp ?_
    rw [← first.words, empty, words_nil]
  · refine first.right.eq_of_words ?_
    rw [← first.words, words_of_solid empty solid]

end Respelled

end DeclMerge.Text
