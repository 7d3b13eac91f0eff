/-!
# Operators

The five binary operators, their signs and how tightly they bind. All of them group to the left.
-/

namespace Formulary

/-- A binary operator. -/
inductive Operator where
  /-- The sum, `+`. -/
  | add
  /-- The difference, `-`. -/
  | subtract
  /-- The product, `*`, also the one left unwritten in `3x`. -/
  | multiply
  /-- The quotient, `/`. -/
  | divide
  /-- The power, `^`. -/
  | power
  deriving DecidableEq, Repr

namespace Operator

/-- The sign of an operator. -/
def symbol : Operator → Char
  | add => '+'
  | subtract => '-'
  | multiply => '*'
  | divide => '/'
  | power => '^'

/-- The operator with a given sign. -/
def ofSymbol? : Char → Option Operator
  | '+' => some add
  | '-' => some subtract
  | '*' => some multiply
  | '/' => some divide
  | '^' => some power
  | _ => none

/-- How tightly an operator binds. -/
def precedence : Operator → Nat
  | add | subtract => 1
  | multiply | divide => 2
  | power => 3

/-- The name of an operator in the journal. -/
def name : Operator → String
  | add => "Add"
  | subtract => "Subtract"
  | multiply => "Multiply"
  | divide => "Divide"
  | power => "Power"

@[simp] theorem ofSymbol?_symbol (op : Operator) : ofSymbol? op.symbol = some op := by
  cases op <;> rfl

theorem ofSymbol?_eq_some_iff {c : Char} {op : Operator} :
    ofSymbol? c = some op ↔ c = op.symbol := by
  constructor
  · intro h
    unfold ofSymbol? at h
    split at h <;> cases h <;> rfl
  · rintro rfl
    exact ofSymbol?_symbol op

theorem symbol_inj {op op' : Operator} : op.symbol = op'.symbol ↔ op = op' := by
  refine ⟨fun h => ?_, congrArg symbol⟩
  rw [← Option.some_inj, ← ofSymbol?_symbol op, h, ofSymbol?_symbol]

/-- Five characters are signs of operators. -/
theorem mem_signs_iff {c : Char} :
    c ∈ ['+', '-', '*', '/', '^'] ↔ ∃ op : Operator, c = op.symbol := by
  constructor
  · intro h
    simp only [List.mem_cons, List.not_mem_nil, or_false] at h
    rcases h with rfl | rfl | rfl | rfl | rfl
    · exact ⟨add, rfl⟩
    · exact ⟨subtract, rfl⟩
    · exact ⟨multiply, rfl⟩
    · exact ⟨divide, rfl⟩
    · exact ⟨power, rfl⟩
  · rintro ⟨op, rfl⟩
    cases op <;> decide

theorem precedence_pos (op : Operator) : 1 ≤ op.precedence := by
  cases op <;> decide

theorem precedence_le_three (op : Operator) : op.precedence ≤ 3 := by
  cases op <;> decide

end Operator

end Formulary
