import Formulary.Formula.Assembly
import Formulary.Formula.Trace
import Formulary.Text.WhiteSpace
import Formulary.Token.ReversePolish
import Formulary.Token.Scan

/-!
# From text to formula

A text is scanned, its tokens are brought into reverse Polish order, and the formula is assembled.
A text of nothing but white space is refused at once. The fault of a text is that of the first
stage that has one.
-/

namespace Formulary.Formula

/-- Whether a text has nothing but white space. -/
def isBlank (text : String) : Bool := text.toList.all Text.isWhiteSpace

/-- The formula that the tokens of a text stand for. -/
def ofTokens (ts : List Token) : Except Fault Formula := reversePolish ts >>= ofReversePolish

/-- The formula that a text stands for. -/
def compile (text : String) : Except Fault Formula :=
  if isBlank text then .error (.malformed .blank)
  else Token.scan text >>= ofTokens

/-- The formula that a text stands for, with a record of every stage that was passed. -/
def compileLogged (text : String) : Logged Fault Formula := do
  .write (.compiling text)
  if isBlank text then .quiet (.error (.malformed .blank))
  else
    let tokens ← .recording (Token.scan text) (.scanned text ·)
    let ordered ← .recording (reversePolish tokens) (.ordered ·)
    .recording (ofReversePolish ordered) (.assembled ·)

/-- Keeping a journal does not change the formula. -/
@[simp] theorem result_compileLogged (text : String) :
    (compileLogged text).result = compile text := by
  unfold compileLogged compile
  rw [Logged.result_bind]
  show (ite _ _ _ : Logged Fault Formula).result = _
  split
  · rfl
  · simp only [Logged.result_bind, Logged.result_recording]
    rfl

/-- The value of the formula that a text stands for. -/
def evalText (text : String) (b : Bindings) : Except Fault Float :=
  compile text >>= fun f => f.eval b

/-- The value of the formula that a text stands for, with a record of everything done. -/
def evalTextLogged (text : String) (b : Bindings) : Logged Fault Float := do
  let f ← compileLogged text
  f.evalLogged b

@[simp] theorem result_evalTextLogged (text : String) (b : Bindings) :
    (evalTextLogged text b).result = evalText text b := by
  simp [evalTextLogged, evalText]

end Formulary.Formula
