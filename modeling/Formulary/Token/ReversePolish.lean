import Formulary.Fault
import Formulary.Token

/-!
# Reverse Polish order

Tokens with brackets are brought into the order in which operands come first and each operator
follows its two operands. Operands pass straight through. An operator waits on a siding until one
that binds no tighter, a closing bracket or the end comes along. Each opening bracket puts the
waiting operators aside as a level of their own, so those of one level are never mixed with
another's.

Only the pairing of the brackets is checked here. Whether every operator has its operands shows
when the tokens are assembled.
-/

namespace Formulary

/-- The tokens that have left and the operators that still wait. -/
structure Siding where
  /-- The tokens in reverse Polish order so far, the last one first. -/
  left : List Token
  /-- The operators that wait inside the innermost open bracket, the last one first. -/
  waiting : List Operator
  /-- The operators that wait outside it, bracket by bracket, the innermost first. -/
  outer : List (List Operator)
  deriving DecidableEq

namespace Siding

/-- The state before the first token. -/
def start : Siding := ⟨[], [], []⟩

/-- Whether the waiting operator `p` leaves before `op` comes to wait. Equal precedence makes it
leave, so every operator groups to the left. -/
def leavesBefore (op p : Operator) : Bool := decide (op.precedence ≤ p.precedence)

/-- Some operators, the last one to wait first, leave behind the tokens `ts`. -/
def release (ps : List Operator) (ts : List Token) : List Token :=
  (ps.map Token.operator).reverse ++ ts

/-- Takes in one token. -/
def step (s : Siding) : Token → Except Fault Siding
  | .operator op =>
    .ok { s with
      left := release (s.waiting.takeWhile (leavesBefore op)) s.left
      waiting := op :: s.waiting.dropWhile (leavesBefore op) }
  | .opening => .ok ⟨s.left, [], s.waiting :: s.outer⟩
  | .closing =>
    match s.outer with
    | [] => .error .mismatchedBrackets
    | ps :: outer => .ok ⟨release s.waiting s.left, ps, outer⟩
  | t => .ok { s with left := t :: s.left }

/-- Takes in tokens one after another. -/
def feed (s : Siding) (ts : List Token) : Except Fault Siding := ts.foldlM step s

/-- Lets the last operators leave, once every bracket is closed. -/
def finish (s : Siding) : Except Fault (List Token) :=
  match s.outer with
  | [] => .ok (release s.waiting s.left).reverse
  | _ :: _ => .error .mismatchedBrackets

/-- What waits, the last token first, each opening bracket above the level that it closed off. -/
def stack (s : Siding) : List Token :=
  s.waiting.map .operator ++ s.outer.flatMap fun ps => .opening :: ps.map .operator

@[simp] theorem feed_nil (s : Siding) : s.feed [] = .ok s := rfl

@[simp] theorem feed_cons (s : Siding) (t : Token) (ts : List Token) :
    s.feed (t :: ts) = s.step t >>= fun s' => s'.feed ts := rfl

/-- A row of tokens in two parts is taken in part by part. -/
theorem feed_append (s : Siding) (ts us : List Token) :
    s.feed (ts ++ us) = s.feed ts >>= fun s' => s'.feed us := by
  simp [feed]

theorem step_operand (s : Siding) {t : Token} (h : t.isOperand = true) :
    s.step t = .ok { s with left := t :: s.left } := by
  cases t <;> first | rfl | cases h

end Siding

/-- The tokens in reverse Polish order, without brackets. -/
def reversePolish (ts : List Token) : Except Fault (List Token) :=
  Siding.start.feed ts >>= Siding.finish

end Formulary
