/-!
# Rounding a quotient

The whole number nearest to a quotient of natural numbers, of two equally near ones the even
one. The main statements bound the error by half a unit and say that a whole quotient is kept.
-/

namespace Formulary

/-- The whole number nearest to `num / den`; a half goes to the even neighbour. -/
def roundHalfEven (num den : Nat) : Nat :=
  let whole := num / den
  let twice := 2 * (num % den)
  if den < twice ∨ twice = den ∧ whole % 2 = 1 then whole + 1 else whole

/-- Rounding never goes below the whole part. -/
theorem div_le_roundHalfEven (num den : Nat) : num / den ≤ roundHalfEven num den := by
  unfold roundHalfEven
  dsimp only
  split <;> omega

/-- Rounding never goes above the whole part by more than one. -/
theorem roundHalfEven_le_div_add_one (num den : Nat) :
    roundHalfEven num den ≤ num / den + 1 := by
  unfold roundHalfEven
  dsimp only
  split <;> omega

/-- A whole quotient is its own rounding. -/
theorem roundHalfEven_mul (n : Nat) {den : Nat} (h : 0 < den) :
    roundHalfEven (n * den) den = n := by
  unfold roundHalfEven
  rw [Nat.mul_mod_left, Nat.mul_div_cancel n h]
  dsimp only
  rw [if_neg (by omega)]

/-- The rounded quotient is too large by at most half a unit. -/
theorem two_mul_roundHalfEven_mul_le (num : Nat) {den : Nat} (h : 0 < den) :
    2 * (roundHalfEven num den * den) ≤ 2 * num + den := by
  have hdiv := Nat.div_add_mod num den
  have hmod := Nat.mod_lt num h
  rw [Nat.mul_comm] at hdiv
  unfold roundHalfEven
  dsimp only
  split
  · rw [Nat.add_mul]
    omega
  · omega

/-- The rounded quotient is too small by at most half a unit. -/
theorem two_mul_le_roundHalfEven_mul (num : Nat) {den : Nat} (h : 0 < den) :
    2 * num ≤ 2 * (roundHalfEven num den * den) + den := by
  have hdiv := Nat.div_add_mod num den
  have hmod := Nat.mod_lt num h
  rw [Nat.mul_comm] at hdiv
  unfold roundHalfEven
  dsimp only
  split
  · rw [Nat.add_mul]
    omega
  · omega

/-- A half goes to the even neighbour. -/
theorem roundHalfEven_even_of_half {num den : Nat} (h : 2 * (num % den) = den) :
    roundHalfEven num den % 2 = 0 := by
  unfold roundHalfEven
  dsimp only
  split <;> omega

end Formulary
