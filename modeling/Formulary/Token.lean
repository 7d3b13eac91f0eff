import Formulary.Operator
import Formulary.Number.Layout
import Formulary.Text.Quoted

/-!
# Tokens

The words of a formula. Two notions of sameness are in use: `=` tells any two tokens apart that
differ in any way, and `==` compares numbers as numbers, so that no NaN is the same as itself and
the two zeros are the same.
-/

namespace Formulary

/-- A word of a formula. -/
inductive Token where
  /-- A number. -/
  | number (value : Float)
  /-- A variable. -/
  | name (letter : Char)
  /-- An operator. -/
  | operator (op : Operator)
  /-- An opening bracket. -/
  | opening
  /-- A closing bracket. -/
  | closing
  /-- A row of letters that is no single letter, or of digits and points that is no numeral. It is
  kept so that brackets are checked before it is refused. -/
  | unreadable (text : String)
  deriving DecidableEq

namespace Token

/-- Whether two tokens are the same, numbers compared as numbers. -/
protected def beq : Token → Token → Bool
  | number x, number y => x == y
  | name c, name d => c == d
  | operator p, operator q => decide (p = q)
  | opening, opening => true
  | closing, closing => true
  | unreadable s, unreadable t => s == t
  | _, _ => false

instance : BEq Token := ⟨Token.beq⟩

/-- Whether a token is an operand, readable or not. -/
def isOperand : Token → Bool
  | number _ | name _ | unreadable _ => true
  | operator _ | opening | closing => false

/-- Whether a token is a bracket. -/
def isBracket : Token → Bool
  | opening | closing => true
  | _ => false

/-- A token as the journal shows it. -/
def shown : Token → String
  | number x => s!"Number({Layout.marked.write x})"
  | name c => s!"Identifier({Text.quotedChar c})"
  | operator op => s!"Operator({op.name})"
  | opening => "LeftParen"
  | closing => "RightParen"
  | unreadable text => s!"Invalid({Text.quotedText text})"

/-- A row of tokens as the journal shows it. -/
def shownList (ts : List Token) : String :=
  "[" ++ String.intercalate ", " (ts.map shown) ++ "]"

end Token

end Formulary
