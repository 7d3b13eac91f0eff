import Formulary.Number.Decimal

/-!
# The shortest decimal of a magnitude

Of all decimals that read back as a given magnitude, the one with the fewest digits, and of
several such the nearest. A decimal with few digits lies on a coarse grid `10 ^ e`, so the
grids are tried from the coarsest to the finest, and on each only the two points next to the
magnitude can be its answer.
-/

namespace Formulary.Magnitude

/-- The `n`-th magnitude with all its digits. -/
def exactDecimal (n : Nat) : Decimal :=
  if 0 ≤ exponent n then ⟨num n, 0⟩
  else ⟨significand n * Nat.pow 5 (-exponent n).toNat, exponent n⟩

/-- The point below or at the `n`-th magnitude on the grid `10 ^ e`. -/
def below (n : Nat) (e : Int) : Decimal :=
  ⟨num n * tenTo (-e).toNat / (den n * tenTo e.toNat), e⟩

/-- The point above the `n`-th magnitude on the grid `10 ^ e`. -/
def above (n : Nat) (e : Int) : Decimal :=
  ⟨(below n e).digits + 1, e⟩

/-- Whether the point below the `n`-th magnitude on the grid `10 ^ e` is nearer to it than the
point above. -/
def nearerBelow (n : Nat) (e : Int) : Bool :=
  let unit := den n * tenTo e.toNat
  decide (2 * (num n * tenTo (-e).toNat % unit) < unit)

/-- The point of the grid `10 ^ e` that reads back as the `n`-th magnitude, the nearer one if
both neighbours do; of two equally near ones the upper. -/
def onGrid? (n : Nat) (e : Int) : Option Decimal :=
  let lower := below n e
  let upper := above n e
  if lower.nearest = n then
    if upper.nearest = n ∧ nearerBelow n e = false then some upper else some lower
  else if upper.nearest = n then some upper
  else none

/-- The first hit on the `fuel` grids from `10 ^ e` downwards. -/
def search (n : Nat) : Nat → Int → Option Decimal
  | 0, _ => none
  | fuel + 1, e => (onGrid? n e).or (search n fuel (e - 1))

/-- The number of digits of `n`. -/
def digitCount (n : Nat) : Nat := (Nat.toDigits 10 n).length

/-- A power of ten above the `n`-th magnitude, and by no more than two places. -/
def topPlace (n : Nat) : Int :=
  if den n ≤ num n then digitCount (num n / den n)
  else 2 - (digitCount (den n / num n) : Int)

/-- The shortest decimal of the `n`-th magnitude. Seventeen digits always read back, so the exact
decimal at the end only completes the definition. -/
def shortest (n : Nat) : Decimal :=
  if n = 0 then ⟨0, 0⟩
  else (search n 20 (topPlace n)).getD (exactDecimal n)

/-- What is found on a grid reads back. -/
theorem nearest_of_onGrid? {n : Nat} {e : Int} {d : Decimal} (h : onGrid? n e = some d) :
    d.nearest = n := by
  unfold onGrid? at h
  dsimp only at h
  split at h
  · split at h
    · rename_i h2
      cases h
      exact h2.1
    · rename_i h1 _
      cases h
      exact h1
  · split at h
    · rename_i h1
      cases h
      exact h1
    · cases h

/-- What the search finds reads back. -/
theorem nearest_of_search {n fuel : Nat} {e : Int} {d : Decimal} (h : search n fuel e = some d) :
    d.nearest = n := by
  induction fuel generalizing e with
  | zero => cases h
  | succ fuel ih =>
    rw [search, Option.or_eq_some_iff] at h
    rcases h with h | ⟨-, h⟩
    · exact nearest_of_onGrid? h
    · exact ih h

end Formulary.Magnitude
