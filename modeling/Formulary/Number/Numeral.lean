import Formulary.Number.Decimal

/-!
# Numerals

A numeral is a row of digits with at most one decimal point and at least one digit. Its value is
exact; reading it as a double means taking the nearest one. Numbers given as data may besides
carry a sign and a power of ten, and may be infinite or no number at all.
-/

namespace Formulary

/-- Whether a character may stand in a row of digits and points. -/
def isNumeralChar (c : Char) : Bool := c.isDigit || c == '.'

namespace Numeral

/-- The digits of a row, without its points. -/
def digitsOf (run : List Char) : List Char := run.filter (· != '.')

/-- How many characters stand behind the first point of a row. -/
def placesOf (run : List Char) : Nat := (run.dropWhile (· != '.')).length - 1

/-- A row of digits and points is a numeral if it has a digit and no second point. -/
def isWellFormed (run : List Char) : Bool :=
  decide (run.count '.' ≤ 1) && !(digitsOf run).isEmpty

/-- The exact value of a row of digits with at most one point. -/
def value (run : List Char) : Decimal :=
  ⟨Nat.ofDigitChars 10 (digitsOf run) 0, -(placesOf run : Int)⟩

/-- The exact value of a numeral; other rows have none. -/
def decimal? (run : List Char) : Option Decimal :=
  if isWellFormed run then some (value run) else none

theorem decimal?_eq_none_iff (run : List Char) : decimal? run = none ↔ isWellFormed run = false := by
  unfold decimal?
  split <;> simp [*]

end Numeral

/-! ### Numbers as data -/

namespace Number

/-- Positive infinity. -/
def infinity : Float := 1.0 / 0.0

/-- The one value that is no number. -/
def notANumber : Float := 0.0 / 0.0

/-- The double nearest to a decimal, with infinity for what is out of range. A decimal whose first
digit stands more than four hundred places from the units lies beyond all doubles, or below half of
the smallest; it is told by that place, so a huge power of ten is never worked out. -/
def nearest (d : Decimal) : Float :=
  if d.digits = 0 ∨ d.leadingPlace < -400 then 0.0
  else if 400 < d.leadingPlace then infinity
  else d.toFloat?.getD infinity

/-- A whole number written with digits only. -/
def natural? (cs : List Char) : Option Nat :=
  if !cs.isEmpty && cs.all Char.isDigit then some (Nat.ofDigitChars 10 cs 0) else none

/-- A whole number written with digits and perhaps a sign. -/
def integer? : List Char → Option Int
  | '-' :: cs => (natural? cs).map fun n => -(n : Int)
  | '+' :: cs => (natural? cs).map fun n => (n : Int)
  | cs => (natural? cs).map fun n => (n : Int)

/-- A numeral and perhaps an `e` with a power of ten, as an exact decimal. -/
def scaled? (cs : List Char) : Option Decimal := do
  let row := cs.takeWhile (· != 'e')
  let power ← match cs.dropWhile (· != 'e') with
    | [] => some 0
    | _ :: rest => integer? rest
  let d ← if row.all isNumeralChar then Numeral.decimal? row else none
  pure ⟨d.digits, d.exponent + power⟩

/-- A number without a sign. -/
def unsigned? (cs : List Char) : Option Float :=
  if cs = ['i', 'n', 'f'] then some infinity else (scaled? cs).map nearest

/-- Reads a number given as data. -/
def read? (text : String) : Option Float :=
  match text.toList with
  | ['N', 'a', 'N'] => some notANumber
  | '-' :: cs => (unsigned? cs).map (- ·)
  | cs => unsigned? cs

end Number

end Formulary
