import Formulary.Number.Power
import Formulary.Number.Rounding

/-!
# Magnitudes

The finite non-negative double-precision numbers, counted from zero upwards: the `n`-th of them
is the one whose bits, read as a natural number, are `n`. It is
`significand n * 2 ^ exponent n`. Reading a quotient means finding the index of the nearest
magnitude, and all of that is arithmetic of natural numbers.
-/

namespace Formulary.Magnitude

/-- How many magnitudes have the same exponent, for each exponent: two to the power 52. -/
def binadeSize : Nat := 0x10000000000000

theorem binadeSize_eq : binadeSize = twoTo 52 := rfl

/-- How many finite magnitudes there are. The index just past them stands for infinity. -/
def count : Nat := 2047 * binadeSize

/-- The place value of the sign bit. -/
def signPlace : Nat := 0x8000000000000000

/-- The whole number that is scaled to give the `n`-th magnitude. -/
def significand (n : Nat) : Nat :=
  if n < binadeSize then n else binadeSize + n % binadeSize

/-- The power of two that scales the significand of the `n`-th magnitude. -/
def exponent (n : Nat) : Int :=
  if n < binadeSize then -1074 else (n / binadeSize : Nat) - 1075

/-- The numerator of the `n`-th magnitude as a ratio. -/
def num (n : Nat) : Nat := significand n * twoTo (exponent n).toNat

/-- The denominator of the `n`-th magnitude as a ratio. -/
def den (n : Nat) : Nat := twoTo (-exponent n).toNat

/-! ### Rounding -/

/-- The `e` with `2 ^ e ≤ num / den < 2 ^ (e + 1)`, for positive `num` and `den`. -/
def binade (num den : Nat) : Int :=
  let e : Int := (num.log2 : Int) - den.log2
  if den * twoTo e.toNat ≤ num * twoTo (-e).toNat then e else e - 1

/-- The exponent of the grid on which `num / den` is rounded: 53 significant bits, but never
finer than the smallest magnitude. -/
def gridExponent (num den : Nat) : Int :=
  max (-1074) (binade num den - 52)

/-- The index of the magnitude nearest to `num / den`, ties going to the even significand. A
rounding that carries into the next binade lands on its first magnitude, and a quotient too large
for every magnitude has an index of `count` or more. -/
def nearest (num den : Nat) : Nat :=
  if num = 0 then 0
  else
    let x := gridExponent num den
    (x + 1074).toNat * binadeSize
      + roundHalfEven (num * twoTo (-x).toNat) (den * twoTo x.toNat)

/-! ### Doubles -/

open Float.Model Float.Model.UnpackedFloat in
/-- The bits of a finite magnitude are not those of a NaN. -/
theorem valid_of_lt_count {n : Nat} (h : n < count) :
    Format.binary64.Valid (UInt64.ofNat n).toBitVec where
  eq_packedNaN he _ := by
    exfalso
    have h2 := congrArg BitVec.toNat he
    simp only [count, binadeSize] at h
    simp [unpackExponent, Nat.shiftRight_eq_div_pow] at h2
    omega

/-- The double with index `n`, if `n` is the index of a finite one. -/
def toFloat? (n : Nat) : Option Float :=
  if h : n < count then some (.ofModel ⟨.ofNat n, valid_of_lt_count h⟩) else none

/-- The index of the magnitude of `x`; at least `count` if `x` is not finite. -/
def ofFloat (x : Float) : Nat := x.toBits.toNat % signPlace

/-- Whether the sign bit of `x` is set. -/
def signBit (x : Float) : Bool := decide (signPlace ≤ x.toBits.toNat)

theorem toFloat?_of_lt {n : Nat} (h : n < count) :
    toFloat? n = some (.ofModel ⟨.ofNat n, valid_of_lt_count h⟩) := dif_pos h

/-- There is no finite double beyond the last magnitude, and one for each index up to it. -/
theorem toFloat?_eq_none_iff (n : Nat) : toFloat? n = none ↔ count ≤ n := by
  by_cases h : n < count
  · rw [toFloat?_of_lt h]
    exact ⟨fun hn => absurd hn (Option.some_ne_none _), fun hn => absurd h (Nat.not_lt.2 hn)⟩
  · exact ⟨fun _ => Nat.not_lt.1 h, fun _ => dif_neg h⟩

/-- The bits of the double with index `n` are `n`. -/
theorem toNat_toBits_of_toFloat? {n : Nat} {x : Float} (h : toFloat? n = some x) :
    x.toBits.toNat = n := by
  by_cases hn : n < count
  · rw [toFloat?_of_lt hn, Option.some.injEq] at h
    rw [← h]
    simp only [count, binadeSize] at hn
    exact UInt64.toNat_ofNat_of_lt' (Nat.lt_of_lt_of_le hn (by decide))
  · rw [(toFloat?_eq_none_iff n).2 (Nat.not_lt.1 hn)] at h
    exact absurd h.symm (Option.some_ne_none _)

theorem lt_count_of_toFloat? {n : Nat} {x : Float} (h : toFloat? n = some x) : n < count := by
  by_cases hn : n < count
  · exact hn
  · rw [(toFloat?_eq_none_iff n).2 (Nat.not_lt.1 hn)] at h
    exact absurd h.symm (Option.some_ne_none _)

theorem ofFloat_of_toFloat? {n : Nat} {x : Float} (h : toFloat? n = some x) : ofFloat x = n := by
  have hn := lt_count_of_toFloat? h
  rw [ofFloat, toNat_toBits_of_toFloat? h]
  simp only [count, binadeSize] at hn
  simp only [signPlace]
  omega

theorem signBit_of_toFloat? {n : Nat} {x : Float} (h : toFloat? n = some x) :
    signBit x = false := by
  have hn := lt_count_of_toFloat? h
  rw [signBit, toNat_toBits_of_toFloat? h]
  simp only [count, binadeSize] at hn
  exact decide_eq_false (by simp only [signPlace]; omega)

end Formulary.Magnitude
