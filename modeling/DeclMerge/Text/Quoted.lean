import DeclMerge.Text.Hex
import DeclMerge.Text.Printable

/-!
# Quoted text

A text is quoted so that it can be read off a message whatever it holds. Single quotes stand
around it, or double ones where it holds a single quote and no double one. A backslash leads the
quote, the backslash itself and the three common control characters; what else is not printable
is written by its code point, with as few digits as its size allows.
-/
namespace DeclMerge.Text

/-- The quotes that stand around a text. -/
def quoteFor (text : List Char) : Char :=
  if '\'' ∈ text ∧ '"' ∉ text then '"' else '\''

def escapeCode (code : Nat) : List Char :=
  if code < 0x100 then '\\' :: 'x' :: hex 2 code
  else if code < 0x10000 then '\\' :: 'u' :: hex 4 code
  else '\\' :: 'U' :: hex 8 code

def escapeIn (quote c : Char) : List Char :=
  if c = quote ∨ c = '\\' then ['\\', c]
  else if c = '\t' then ['\\', 't']
  else if c = '\n' then ['\\', 'n']
  else if c = '\r' then ['\\', 'r']
  else if isPrintable c then [c]
  else escapeCode c.toNat

def quote (text : String) : String :=
  let mark := quoteFor text.toList
  String.ofList (mark :: text.toList.flatMap (escapeIn mark) ++ [mark])

example : quote "it's" = "\"it's\"" := by decide +kernel

example : quote "a\\b\n" = "'a\\\\b\\n'" := by decide +kernel

example : quote "\u00AD" = "'\\xad'" := by decide +kernel

end DeclMerge.Text
