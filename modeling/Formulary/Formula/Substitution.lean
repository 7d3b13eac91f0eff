import Formulary.Formula

/-!
# Substitution

A variable is replaced by a formula, in a formula and in a row of tokens. Among tokens the
replacement is put in brackets, so that it stays together.
-/

namespace Formulary

/-- The formula with `s` in place of the variable `c`. -/
def Formula.subst (f : Formula) (c : Char) (s : Formula) : Formula :=
  match f with
  | const x => const x
  | var d => if d = c then s else var d
  | binary l op r => binary (l.subst c s) op (r.subst c s)

/-- The tokens with `s` in brackets in place of the variable `c`. -/
def Token.substAll (c : Char) (s : List Token) (ts : List Token) : List Token :=
  ts.flatMap fun t => if t = .name c then .opening :: s ++ [.closing] else [t]

end Formulary
