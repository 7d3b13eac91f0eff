/-!
# Powers of two and ten

The scales of binary and of decimal numbers.
-/

namespace Formulary

/-- Two to the power `n`. -/
def twoTo (n : Nat) : Nat := Nat.pow 2 n

/-- Ten to the power `n`. -/
def tenTo (n : Nat) : Nat := Nat.pow 10 n

@[simp] theorem twoTo_zero : twoTo 0 = 1 := rfl

theorem twoTo_pos (n : Nat) : 0 < twoTo n := Nat.pow_pos (by decide)

@[simp] theorem tenTo_zero : tenTo 0 = 1 := rfl

theorem tenTo_pos (n : Nat) : 0 < tenTo n := Nat.pow_pos (by decide)

/-- A power of ten is a power of five, scaled by a power of two. -/
theorem tenTo_eq (n : Nat) : tenTo n = Nat.pow 5 n * twoTo n := Nat.mul_pow 5 2 n

end Formulary
