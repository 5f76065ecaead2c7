/-!
# Blanks and words

The code points that separate words, as a table of ranges, and the words of a text: its
maximal runs without a blank. Everything about `words` follows from what it does at one blank
(`words_append_blank`) and on a text without blanks (`words_of_solid`).
-/
namespace DeclMerge.Text

/-- The code points that separate words, as ranges with both ends included, in ascending order:
the white space of the Unicode standard and the four information separators. -/
def blankRanges : List (Nat × Nat) :=
  [(0x09, 0x0D), (0x1C, 0x20), (0x85, 0x85), (0xA0, 0xA0), (0x1680, 0x1680), (0x2000, 0x200A),
    (0x2028, 0x2029), (0x202F, 0x202F), (0x205F, 0x205F), (0x3000, 0x3000)]

def isBlank (c : Char) : Bool :=
  blankRanges.any fun range => range.1 ≤ c.toNat && c.toNat ≤ range.2

/-- The maximal runs of characters that are not blank, in order. -/
def words (text : List Char) : List (List Char) :=
  (text.splitOnP isBlank).filter (!·.isEmpty)

@[simp] theorem words_nil : words [] = [] := rfl

/-- A blank ends the word before it and belongs to none. -/
theorem words_append_blank (before after : List Char) {c : Char} (blank : isBlank c = true) :
    words (before ++ c :: after) = words before ++ words after := by
  rw [words, List.splitOnP_append_cons before after blank, List.filter_append]
  rfl

theorem words_blank_cons (text : List Char) {c : Char} (blank : isBlank c = true) :
    words (c :: text) = words text := by
  simpa using words_append_blank [] text blank

/-- A nonempty text without blanks is one word. -/
theorem words_of_solid {text : List Char} (nonempty : text ≠ [])
    (solid : ∀ c ∈ text, isBlank c = false) : words text = [text] := by
  rw [words, List.splitOnP_eq_singleton solid]
  simp [nonempty]

end DeclMerge.Text
