import Formulary.Fault
import Formulary.Formula

/-!
# Assembly

Tokens in reverse Polish order become a formula. Operands are put on a stack, and each operator
joins the two formulas on top of it. The first token that cannot be used is the fault; with none
of those, exactly one formula has to be left.
-/

namespace Formulary.Formula

/-- Uses one token on a stack of formulas, the last one first. -/
def assembleStep (stack : List Formula) : Token → Except Fault (List Formula)
  | .number x => .ok (const x :: stack)
  | .name c => .ok (var c :: stack)
  | .operator op =>
    match stack with
    | r :: l :: rest => .ok (binary l op r :: rest)
    | _ => .error (.malformed (.missingOperand op))
  | .unreadable text => .error (.malformed (.unreadable text))
  | .opening | .closing => .error (.malformed .strayBracket)

/-- Uses tokens one after another. -/
def assemble (stack : List Formula) (ts : List Token) : Except Fault (List Formula) :=
  ts.foldlM assembleStep stack

/-- The one formula on a stack. -/
def only : List Formula → Except Fault Formula
  | [f] => .ok f
  | [] => .error (.malformed .empty)
  | _ => .error (.malformed .surplusOperands)

/-- The formula that is laid flat in the tokens. -/
def ofReversePolish (ts : List Token) : Except Fault Formula := assemble [] ts >>= only

@[simp] theorem assemble_nil (stack : List Formula) : assemble stack [] = .ok stack := rfl

@[simp] theorem assemble_cons (stack : List Formula) (t : Token) (ts : List Token) :
    assemble stack (t :: ts) = assembleStep stack t >>= fun s => assemble s ts := rfl

/-- Tokens in two parts are used part by part. -/
theorem assemble_append (stack : List Formula) (ts us : List Token) :
    assemble stack (ts ++ us) = assemble stack ts >>= fun s => assemble s us := by
  simp [assemble]

theorem assemble_concat (stack : List Formula) (ts : List Token) (t : Token) :
    assemble stack (ts ++ [t]) = assemble stack ts >>= fun s => assembleStep s t := by
  simp [assemble]

/-- A formula laid flat puts itself on top of the stack. -/
theorem assemble_toReversePolish (f : Formula) (stack : List Formula) :
    assemble stack f.toReversePolish = .ok (f :: stack) := by
  induction f generalizing stack with
  | const x => rfl
  | var c => rfl
  | binary l op r ihl ihr =>
    rw [toReversePolish, assemble_append, assemble_append, ihl]
    show (assemble (l :: stack) r.toReversePolish >>= _) = _
    rw [ihr]
    rfl

/-- A formula laid flat is assembled again. -/
theorem ofReversePolish_toReversePolish (f : Formula) :
    ofReversePolish f.toReversePolish = .ok f := by
  rw [ofReversePolish, assemble_toReversePolish]
  rfl

end Formulary.Formula
