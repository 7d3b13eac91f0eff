import Formulary.Number.Magnitude

/-!
# Decimal numbers

Non-negative numbers of the form `digits * 10 ^ exponent`, as ratios of natural numbers, as
rows of digits with a point, and the magnitude that is nearest to one.
-/

namespace Formulary

/-- The number `digits * 10 ^ exponent`. -/
structure Decimal where
  /-- The significant digits, read as a whole number. -/
  digits : Nat
  /-- The power of ten that scales them. -/
  exponent : Int
  deriving DecidableEq, Repr

namespace Decimal

/-- The numerator of the number as a ratio. -/
def num (d : Decimal) : Nat := d.digits * tenTo d.exponent.toNat

/-- The denominator of the number as a ratio. -/
def den (d : Decimal) : Nat := tenTo (-d.exponent).toNat

/-- The index of the magnitude nearest to the number. -/
def nearest (d : Decimal) : Nat := Magnitude.nearest d.num d.den

/-- The magnitude nearest to the number, if it is in range. -/
def toFloat? (d : Decimal) : Option Float := Magnitude.toFloat? d.nearest

/-- The digits of the number, first digit first. -/
def digitChars (d : Decimal) : List Char := Nat.toDigits 10 d.digits

/-- The place of the first significant digit: `0` for units, `2` for hundreds, `-1` for tenths. -/
def leadingPlace (d : Decimal) : Int := d.digitChars.length - 1 + d.exponent

/-- Whether the number is written without a point. -/
def isWhole (d : Decimal) : Bool := decide (0 ≤ d.exponent)

/-- The number in full: as many zeros as the exponent asks for behind the digits, or a point
among them, with at least one digit before the point. -/
def positional (d : Decimal) : List Char :=
  if d.isWhole then d.digitChars ++ List.replicate d.exponent.toNat '0'
  else
    let places := (-d.exponent).toNat
    let row := List.replicate (places + 1 - d.digitChars.length) '0' ++ d.digitChars
    row.take (row.length - places) ++ '.' :: row.drop (row.length - places)

/-- The number with a single digit before the point and the rest of its size as a power of ten. -/
def scientific (d : Decimal) : List Char :=
  let point := if d.digitChars.length = 1 then [] else ['.']
  d.digitChars.take 1 ++ point ++ d.digitChars.drop 1 ++ 'e' :: (toString d.leadingPlace).toList

theorem den_pos (d : Decimal) : 0 < d.den := tenTo_pos _

theorem positional_of_nonneg {d : Decimal} (h : 0 ≤ d.exponent) :
    d.positional = d.digitChars ++ List.replicate d.exponent.toNat '0' := by
  simp [positional, isWhole, h]

end Decimal

end Formulary
