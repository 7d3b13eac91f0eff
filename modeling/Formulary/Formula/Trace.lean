import Formulary.Formula.Value
import Formulary.Journal

/-!
# Traced evaluation

Evaluation that writes down every operation it has carried out. The value is that of plain
evaluation.
-/

namespace Formulary.Formula

/-- The value of a formula, with a record of every operation that had a result. -/
def evalLogged (b : Bindings) : Formula → Logged Fault Float
  | const x => pure x
  | var c => .quiet (valueOf b c)
  | binary l op r => do
    let x ← l.evalLogged b
    let y ← r.evalLogged b
    .recording (op.apply x y) (.applied x op y ·)

/-- Tracing does not change the value. -/
@[simp] theorem result_evalLogged (b : Bindings) (f : Formula) :
    (f.evalLogged b).result = f.eval b := by
  induction f with
  | const x => rfl
  | var c => rfl
  | binary l op r ihl ihr => simp [evalLogged, eval_binary, ihl, ihr]

end Formulary.Formula
