import Formulary.Number.Shortest

/-!
# The text of a number

Every number is written with the fewest digits that read back as the same double. Two layouts
are in use: the plain one of rendered formulas and answers, and the marked one of the journal,
which shows that a number is not a whole-number type and keeps very large and very small ones
short.
-/

namespace Formulary

/-- How the digits of a number are laid out. -/
structure Layout where
  /-- Whether a number whose first digit has this place is written in full. -/
  inFull : Int → Bool
  /-- What follows the digits of a whole number written in full. -/
  afterWhole : List Char

namespace Layout

/-- Every number is written in full, a whole one without a point. -/
def plain : Layout where
  inFull _ := true
  afterWhole := []

/-- Whole numbers end in `.0`; below a ten-thousandth and from ten thousand million million on, a
power of ten is split off. -/
def marked : Layout where
  inFull place := decide (-4 ≤ place ∧ place < 16)
  afterWhole := ['.', '0']

/-- The text of a decimal. Zero is always written in full. -/
def writeDecimal (l : Layout) (d : Decimal) : List Char :=
  if l.inFull d.leadingPlace then
    if d.isWhole then d.positional ++ l.afterWhole else d.positional
  else d.scientific

/-- The characters of a number: a minus sign for a set sign bit, and the shortest decimal of the
magnitude. A NaN has no sign. -/
def chars (l : Layout) (x : Float) : List Char :=
  if x.isNaN then ['N', 'a', 'N']
  else
    let sign := if Magnitude.signBit x then ['-'] else []
    let n := Magnitude.ofFloat x
    sign ++ if n < Magnitude.count then l.writeDecimal (Magnitude.shortest n) else ['i', 'n', 'f']

/-- The text of a number. -/
def write (l : Layout) (x : Float) : String := .ofList (l.chars x)

@[simp] theorem toList_write (l : Layout) (x : Float) : (l.write x).toList = l.chars x :=
  String.toList_ofList

/-- In the plain layout a decimal is written in full. -/
theorem writeDecimal_plain (d : Decimal) : plain.writeDecimal d = d.positional := by
  simp [writeDecimal, plain]

end Layout

end Formulary
