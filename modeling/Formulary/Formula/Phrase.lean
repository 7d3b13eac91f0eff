import Formulary.Formula

/-!
# The grammar of formulas

Which rows of tokens are formulas as they are written, and which formula each of them stands for.
The grammar has three levels of operations, sums and differences below, powers on top, and above
them one for what needs no brackets: numbers, variables, and phrases in brackets. Every operator
takes a phrase of its own level on its left, so all of them group to the left.

The levels are written out here (`Operator.level`), apart from the precedence by which operators
are put into an order.
-/

namespace Formulary

/-- The level of the operations with an operator: the first for sums and differences, the second for
products and quotients, the third for powers. -/
def Operator.level : Operator → Nat
  | add | subtract => 1
  | multiply | divide => 2
  | power => 3

/-- An operator binds as tightly as its level says. -/
theorem Operator.level_eq_precedence (op : Operator) : op.level = op.precedence := by
  cases op <;> rfl

theorem Operator.level_pos (op : Operator) : 1 ≤ op.level := by
  cases op <;> decide

theorem Operator.level_le_three (op : Operator) : op.level ≤ 3 := by
  cases op <;> decide

namespace Formula

/-- The level of numbers, variables and phrases in brackets. -/
def atomLevel : Nat := 4

/-- The tokens `ts` are a phrase of level `k` and stand for the formula `f`. -/
inductive Phrase : Nat → List Token → Formula → Prop where
  /-- A number. -/
  | number (x : Float) : Phrase atomLevel [.number x] (const x)
  /-- A variable. -/
  | name (c : Char) : Phrase atomLevel [.name c] (var c)
  /-- A phrase of the first level in brackets. -/
  | bracketed {ts : List Token} {f : Formula} :
      Phrase 1 ts f → Phrase atomLevel (.opening :: ts ++ [.closing]) f
  /-- A phrase that binds tighter than it needs to. -/
  | tighter {k : Nat} {ts : List Token} {f : Formula} :
      1 ≤ k → Phrase (k + 1) ts f → Phrase k ts f
  /-- Two phrases and an operator between them. -/
  | binary {ts us : List Token} {l r : Formula} (op : Operator) :
      Phrase op.level ts l → Phrase (op.level + 1) us r →
      Phrase op.level (ts ++ .operator op :: us) (binary l op r)

end Formula

end Formulary
