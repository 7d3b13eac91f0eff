import Formulary.Token

/-!
# Balance

Rows in which brackets pair up: read from the left, no bracket closes that has not been opened,
and at the end none is open.
-/

namespace Formulary

/-- Whether the brackets of a row pair up, given which of its members open and close one. -/
def Balanced {α : Type} (opens closes : α → Bool) (xs : List α) : Prop :=
  (∀ ys, ys <+: xs → ys.countP closes ≤ ys.countP opens) ∧ xs.countP closes = xs.countP opens

namespace Token

/-- Whether a token is an opening bracket. -/
def opens : Token → Bool
  | opening => true
  | _ => false

/-- Whether a token is a closing bracket. -/
def closes : Token → Bool
  | closing => true
  | _ => false

end Token

/-- How many brackets of a row of tokens are open at its end. -/
def openBrackets (ts : List Token) : Int :=
  (ts.countP Token.opens : Int) - ts.countP Token.closes

theorem openBrackets_cons (t : Token) (ts : List Token) :
    openBrackets (t :: ts) = openBrackets [t] + openBrackets ts := by
  unfold openBrackets
  rw [List.countP_cons, List.countP_cons, List.countP_singleton, List.countP_singleton]
  omega

/-- An operand is no bracket. -/
theorem openBrackets_operand {t : Token} (h : t.isOperand = true) : openBrackets [t] = 0 := by
  cases t with
  | number | name | unreadable => rfl
  | operator | opening | closing => cases h

end Formulary
