/-!
# Hexadecimal digits
-/
namespace DeclMerge.Text

/-- The last `width` hexadecimal digits of a number, in lower case, leading zeros included. -/
def hex : (width : Nat) → Nat → List Char
  | 0, _ => []
  | width + 1, n => hex width (n / 16) ++ [Nat.digitChar (n % 16)]

end DeclMerge.Text
