import DeclMerge.Text.Blank

/-!
# Signatures in normal form

Two spellings of one declaration differ in their blanks and in the separator that ends them.
The normal form joins the words by single spaces, then drops the separators at the end, then the
spaces this uncovers. Each of the two trims runs once: `a; ;` keeps its first semicolon.
-/
namespace DeclMerge.Text

/-- The characters that end an entry of a body and say nothing about its shape. -/
def isSeparator (c : Char) : Bool := c = ';' || c = ','

/-- The normal form on characters. -/
def normalForm (text : List Char) : List Char :=
  let joined := [' '].intercalate (words text)
  -- What stands at the end comes first in the reverse.
  ((joined.reverse.dropWhile isSeparator).dropWhile isBlank).reverse

/-- The normal form of a signature. -/
def normalize (text : String) : String := String.ofList (normalForm text.toList)

/-- The normal form looks at the words alone. -/
theorem normalize_congr {left right : String}
    (same : words left.toList = words right.toList) : normalize left = normalize right := by
  rw [normalize, normalForm, same]
  rfl

end DeclMerge.Text
