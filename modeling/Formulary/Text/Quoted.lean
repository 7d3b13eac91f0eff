import Formulary.Text.Hidden

/-!
# Quoted text

Characters and texts as the journal shows them: between quotes, with a backslash before the quote
in use and in place of the characters that would not be seen.
-/

namespace Formulary.Text

/-- Whether a character is shown as itself between quotes: if it is seen, and does not depend on the
character in front of it. -/
def isShown (c : Char) : Bool := !isExtending c && isPrintable c

/-- A character by its code point in hexadecimal digits, between braces. -/
def byCodePoint (c : Char) : List Char :=
  ['\\', 'u', '\x7b'] ++ Nat.toDigits 16 c.toNat ++ ['\x7d']

/-- A character as it stands between two quotes `quote`. -/
def escape (quote c : Char) : List Char :=
  if c = '\t' then ['\\', 't']
  else if c = '\n' then ['\\', 'n']
  else if c = '\r' then ['\\', 'r']
  else if c = '\x00' then ['\\', '0']
  else if c = '\\' ∨ c = quote then ['\\', c]
  else if isShown c then [c]
  else byCodePoint c

/-- A row of characters between quotes. -/
def quoted (quote : Char) (cs : List Char) : String :=
  .ofList (quote :: cs.flatMap (escape quote) ++ [quote])

/-- A character between single quotes. -/
def quotedChar (c : Char) : String := quoted '\x27' [c]

/-- A text between double quotes. -/
def quotedText (text : String) : String := quoted '\x22' text.toList

end Formulary.Text
