import Formulary.Formula.Trace

/-!
# The value of tokens in reverse Polish order

Tokens in reverse Polish order can be evaluated as they come, on a stack of numbers and without a
formula. A token that cannot be used is the same fault as in assembly.
-/

namespace Formulary

/-- Uses one token on a stack of numbers, the last one first. -/
def Token.valueStep (b : Bindings) (stack : List Float) : Token → Logged Fault (List Float)
  | number x => pure (x :: stack)
  | name c => (· :: stack) <$> .quiet (Formula.valueOf b c)
  | operator op =>
    match stack with
    | y :: x :: rest => (· :: rest) <$> .recording (op.apply x y) (.applied x op y ·)
    | _ => .quiet (.error (.malformed (.missingOperand op)))
  | unreadable text => .quiet (.error (.malformed (.unreadable text)))
  | opening | closing => .quiet (.error (.malformed .strayBracket))

/-- The numbers that are left when the tokens have been used one after another, with a record of
every operation that had a result. -/
def stackValue (b : Bindings) (stack : List Float) (ts : List Token) :
    Logged Fault (List Float) :=
  ts.foldlM (Token.valueStep b) stack

@[simp] theorem stackValue_nil (b : Bindings) (stack : List Float) :
    stackValue b stack [] = pure stack := rfl

@[simp] theorem stackValue_cons (b : Bindings) (stack : List Float) (t : Token)
    (ts : List Token) :
    stackValue b stack (t :: ts) = t.valueStep b stack >>= fun s => stackValue b s ts := rfl

end Formulary
