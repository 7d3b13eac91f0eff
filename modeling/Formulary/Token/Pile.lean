import Formulary.Fault
import Formulary.Token.Balance

/-!
# Reverse Polish order from a single pile

Another way to the same order, with one pile for all tokens that wait. An operator takes from the
top whatever operators bind at least as tightly as it does, up to the first token that is something
else, and comes to lie there itself. An opening bracket comes to lie on the pile, a closing one
takes everything down to an opening bracket and that bracket as well. Operands never wait.

What may lie on the pile is not said anywhere, and a closing bracket does not look at what it takes.
-/

namespace Formulary

/-- Whether the token `u` on top of the pile leaves it when `t` comes. -/
def Token.dislodges (t u : Token) : Bool :=
  match t, u with
  | operator op, operator p => decide (op.precedence ≤ p.precedence)
  | closing, opening => false
  | closing, _ => true
  | _, _ => false

/-- The tokens that have left and the pile of those that wait. -/
structure Pile where
  /-- The tokens in reverse Polish order so far, the last one first. -/
  left : List Token
  /-- The tokens that wait, the one on top first. -/
  waiting : List Token

namespace Pile

/-- The state before the first token. -/
def start : Pile := ⟨[], []⟩

/-- What leaves the pile when a token comes, from the top on. -/
def leaving (s : Pile) (t : Token) : List Token := s.waiting.takeWhile t.dislodges

/-- What of the pile stays when a token comes. -/
def staying (s : Pile) (t : Token) : List Token := s.waiting.dropWhile t.dislodges

/-- Takes in one token. -/
def step (s : Pile) (t : Token) : Except Fault Pile :=
  let left := (s.leaving t).reverse ++ s.left
  match t with
  | .operator _ | .opening => .ok ⟨left, t :: s.staying t⟩
  | .closing =>
    match s.staying t with
    | [] => .error .mismatchedBrackets
    | _ :: rest => .ok ⟨left, rest⟩
  | _ => .ok ⟨t :: left, s.staying t⟩

/-- Takes in tokens one after another. -/
def feed (s : Pile) (ts : List Token) : Except Fault Pile := ts.foldlM step s

/-- Lets the whole pile leave, if no bracket is left on it. -/
def finish (s : Pile) : Except Fault (List Token) :=
  if s.waiting.any Token.opens then .error .mismatchedBrackets
  else .ok (s.waiting.reverse ++ s.left).reverse

@[simp] theorem feed_nil (s : Pile) : s.feed [] = .ok s := rfl

@[simp] theorem feed_cons (s : Pile) (t : Token) (ts : List Token) :
    s.feed (t :: ts) = s.step t >>= fun s' => s'.feed ts := rfl

theorem leaving_append_staying (s : Pile) (t : Token) : s.leaving t ++ s.staying t = s.waiting :=
  List.takeWhile_append_dropWhile

/-- Only an operator or a closing bracket takes something from the pile. -/
theorem leaving_eq_nil {t : Token} (h : t.isOperand = true ∨ t = .opening) (s : Pile) :
    s.leaving t = [] := by
  obtain ⟨left, waiting⟩ := s
  cases t with
  | number | name | unreadable | opening => cases waiting <;> rfl
  | operator | closing => rcases h with h | h <;> cases h

/-- An operand passes by the pile. -/
theorem step_operand (s : Pile) {t : Token} (h : t.isOperand = true) :
    s.step t = .ok ⟨t :: s.left, s.waiting⟩ := by
  obtain ⟨left, waiting⟩ := s
  cases t with
  | number | name | unreadable => cases waiting <;> rfl
  | operator | opening | closing => cases h

/-- An opening bracket takes nothing from the pile. -/
theorem step_opening (s : Pile) : s.step .opening = .ok ⟨s.left, .opening :: s.waiting⟩ := by
  obtain ⟨left, waiting⟩ := s
  cases waiting <;> rfl

end Pile

end Formulary
