import Formulary.Bindings
import Formulary.Fault
import Formulary.Formula

/-!
# The value of a formula

The operands of an operation are evaluated from left to right, so the fault that is reported is
the first one on that way.
-/

namespace Formulary

/-- The result of an operation. A divisor that equals zero, of either sign, is a fault; all else
is double-precision arithmetic. -/
def Operator.apply (op : Operator) (x y : Float) : Except Fault Float :=
  match op with
  | add => .ok (x + y)
  | subtract => .ok (x - y)
  | multiply => .ok (x * y)
  | divide => if y == 0.0 then .error .divisionByZero else .ok (x / y)
  | power => .ok (x ^ y)

namespace Formula

/-- The value of a variable, or the fault that it has none. -/
def valueOf (b : Bindings) (c : Char) : Except Fault Float :=
  match b.get? c with
  | some x => .ok x
  | none => .error (.unbound c)

theorem valueOf_eq_ok_iff {b : Bindings} {c : Char} {x : Float} :
    valueOf b c = .ok x ↔ b.get? c = some x := by
  unfold valueOf
  split <;> simp [*]

theorem valueOf_eq_error_iff {b : Bindings} {c : Char} {e : Fault} :
    valueOf b c = .error e ↔ b.get? c = none ∧ e = .unbound c := by
  unfold valueOf
  split <;> simp [*, eq_comm]

/-- The value of a formula. -/
def eval (b : Bindings) : Formula → Except Fault Float
  | const x => .ok x
  | var c => valueOf b c
  | binary l op r => do
    let x ← l.eval b
    let y ← r.eval b
    op.apply x y

/-- The values of a formula under several bindings, in their order. -/
def evalAll (bs : List Bindings) (f : Formula) : List (Except Fault Float) :=
  bs.map fun b => f.eval b

@[simp] theorem eval_const (b : Bindings) (x : Float) : (const x).eval b = .ok x := rfl

@[simp] theorem eval_var (b : Bindings) (c : Char) : (var c).eval b = valueOf b c := rfl

theorem eval_binary (b : Bindings) (l r : Formula) (op : Operator) :
    (binary l op r).eval b
      = l.eval b >>= fun x => r.eval b >>= fun y => op.apply x y := rfl

end Formula

/-- Only a division has no result. -/
theorem Operator.apply_eq_error_iff {op : Operator} {x y : Float} {e : Fault} :
    op.apply x y = .error e ↔ op = .divide ∧ (y == 0.0) = true ∧ e = .divisionByZero := by
  cases op <;> simp [apply]
  constructor
  · intro h
    split at h
    · exact ⟨by assumption, by cases h; rfl⟩
    · cases h
  · rintro ⟨h, rfl⟩
    simp [h]

end Formulary
