import Formulary.Number.Shortest
import Mathlib.Data.Int.Log
import Mathlib.Data.Rat.Floor
import Mathlib.Tactic.FieldSimp
import Mathlib.Tactic.Linarith
import Mathlib.Tactic.NormNum
import Mathlib.Tactic.Ring

/-!
# Magnitudes are their own nearest

The binade of a quotient is its binary logarithm (`binade_eq_log`), so a magnitude is rounded on its
own grid and is kept as it is (`nearest_of_value`). That holds of its exact decimal, hence of the
shortest one as well: both read back (`nearest_shortest`).
-/

namespace Formulary

theorem cast_twoTo (n : ℕ) : (twoTo n : ℚ) = 2 ^ (n : ℤ) := by
  rw [twoTo, zpow_natCast]
  exact Nat.cast_pow 2 n

theorem cast_tenTo (n : ℕ) : (tenTo n : ℚ) = 10 ^ (n : ℤ) := by
  rw [tenTo, zpow_natCast]
  exact Nat.cast_pow 10 n

/-- A power with an exponent of either sign, as the quotient of two with natural ones. -/
theorem zpow_toNat {q : ℚ} (hq : q ≠ 0) (e : ℤ) :
    q ^ (e.toNat : ℤ) = q ^ e * q ^ ((-e).toNat : ℤ) := by
  rw [← zpow_add₀ hq]
  congr 1
  omega

theorem twoTo_toNat (e : ℤ) : (twoTo e.toNat : ℚ) = 2 ^ e * twoTo (-e).toNat := by
  rw [cast_twoTo, cast_twoTo]
  exact zpow_toNat two_ne_zero e

theorem tenTo_toNat (e : ℤ) : (tenTo e.toNat : ℚ) = 10 ^ e * tenTo (-e).toNat := by
  rw [cast_tenTo, cast_tenTo]
  exact zpow_toNat (by norm_num) e

namespace Magnitude

/-! ### Binary logarithms -/

theorem log_two_eq {r : ℚ} {e : ℤ} (h : (2 : ℚ) ^ e ≤ r) (h' : r < 2 ^ (e + 1)) :
    Int.log 2 r = e := by
  have hr : 0 < r := lt_of_lt_of_le (zpow_pos two_pos e) h
  have h1 : e ≤ Int.log 2 r := (Int.zpow_le_iff_le_log one_lt_two hr).1 (by exact_mod_cast h)
  have h2 : Int.log 2 r < e + 1 := (Int.lt_zpow_iff_log_lt one_lt_two hr).1 (by exact_mod_cast h')
  omega

/-- Comparing a quotient with a power of two needs no fractions. -/
theorem mul_twoTo_le_iff {num den : ℕ} (hd : 0 < den) (e : ℤ) :
    den * twoTo e.toNat ≤ num * twoTo (-e).toNat ↔ (2 : ℚ) ^ e ≤ num / den := by
  have hd' : (0 : ℚ) < den := Nat.cast_pos.2 hd
  have ht : (0 : ℚ) < twoTo (-e).toNat := Nat.cast_pos.2 (twoTo_pos _)
  rw [← @Nat.cast_le ℚ, Nat.cast_mul, Nat.cast_mul, twoTo_toNat, ← mul_assoc,
    mul_le_mul_iff_of_pos_right ht, le_div_iff₀ hd', mul_comm]

theorem zpow_log2_le {n : ℕ} (hn : 0 < n) : (2 : ℚ) ^ (n.log2 : ℤ) ≤ n := by
  rw [zpow_natCast]
  exact_mod_cast Nat.log2_self_le hn.ne'

theorem lt_zpow_log2_add_one (n : ℕ) : (n : ℚ) < 2 ^ ((n.log2 : ℤ) + 1) := by
  rw [← Nat.cast_add_one, zpow_natCast]
  exact_mod_cast Nat.lt_log2_self

/-- The binade of a quotient is its binary logarithm. -/
theorem binade_eq_log {num den : ℕ} (hn : 0 < num) (hd : 0 < den) :
    binade num den = Int.log 2 ((num : ℚ) / den) := by
  have hd' : (0 : ℚ) < den := Nat.cast_pos.2 hd
  have hlow : (2 : ℚ) ^ ((num.log2 : ℤ) - den.log2 - 1) ≤ num / den := by
    rw [le_div_iff₀ hd', sub_sub, zpow_sub₀ two_ne_zero, div_mul_eq_mul_div,
      div_le_iff₀ (zpow_pos two_pos _)]
    exact mul_le_mul (zpow_log2_le hn) (lt_zpow_log2_add_one den).le hd'.le (Nat.cast_nonneg _)
  have hhigh : (num : ℚ) / den < 2 ^ ((num.log2 : ℤ) - den.log2 + 1) := by
    rw [div_lt_iff₀ hd', sub_add_eq_add_sub, zpow_sub₀ two_ne_zero, div_mul_eq_mul_div,
      lt_div_iff₀ (zpow_pos two_pos _)]
    exact mul_lt_mul (lt_zpow_log2_add_one num) (zpow_log2_le hd) (zpow_pos two_pos _)
      (zpow_pos two_pos _).le
  rw [binade]
  split_ifs with h
  · exact (log_two_eq ((mul_twoTo_le_iff hd _).1 h) hhigh).symm
  · rw [mul_twoTo_le_iff hd, not_le] at h
    exact (log_two_eq hlow (by rwa [sub_add_cancel])).symm

/-! ### The value of a magnitude -/

/-- The value of the `n`-th magnitude. -/
def value (n : ℕ) : ℚ := significand n * 2 ^ exponent n

theorem num_div_den (n : ℕ) : (num n : ℚ) / den n = value n := by
  have ht : (twoTo (-exponent n).toNat : ℚ) ≠ 0 := Nat.cast_ne_zero.2 (twoTo_pos _).ne'
  rw [num, den, Nat.cast_mul, twoTo_toNat, value]
  field_simp

theorem neg_le_exponent (n : ℕ) : -1074 ≤ exponent n := by
  rw [exponent]
  split_ifs with h
  · exact le_rfl
  · have hq : 1 ≤ n / binadeSize := (Nat.one_le_div_iff (by decide)).2 (Nat.not_lt.1 h)
    omega

/-- A magnitude has 53 significant bits, unless it is one of the smallest. -/
theorem significand_bounds {n : ℕ} (h : binadeSize ≤ n) :
    binadeSize ≤ significand n ∧ significand n < 2 * binadeSize := by
  have hm := Nat.mod_lt n (show 0 < binadeSize by decide)
  rw [significand, if_neg (by omega)]
  omega

/-- The index of a magnitude is made of its exponent and its significand. -/
theorem index_eq (n : ℕ) : (exponent n + 1074).toNat * binadeSize + significand n = n := by
  rw [exponent, significand]
  split_ifs with h
  · rw [neg_add_cancel, Int.toNat_zero, Nat.zero_mul, Nat.zero_add]
  · have hq : 1 ≤ n / binadeSize := (Nat.one_le_div_iff (by decide)).2 (by omega)
    have hdm := Nat.div_add_mod n binadeSize
    have he : (((n / binadeSize : ℕ) : ℤ) - 1075 + 1074).toNat = n / binadeSize - 1 := by omega
    rw [he, Nat.sub_mul, Nat.one_mul, mul_comm]
    have : binadeSize ≤ binadeSize * (n / binadeSize) := Nat.le_mul_of_pos_right _ hq
    omega

theorem cast_binadeSize : (binadeSize : ℚ) = 2 ^ (52 : ℤ) := by
  rw [binadeSize_eq, cast_twoTo]
  rfl

/-- Only the first magnitude is zero. -/
theorem value_eq_zero_iff {n : ℕ} : value n = 0 ↔ n = 0 := by
  rw [value, mul_eq_zero, or_iff_left (zpow_ne_zero _ two_ne_zero), Nat.cast_eq_zero]
  constructor
  · intro hs
    by_contra hn
    by_cases hlt : n < binadeSize
    · rw [significand, if_pos hlt] at hs
      exact hn hs
    · obtain ⟨h1, -⟩ := significand_bounds (Nat.not_lt.1 hlt)
      exact absurd (hs ▸ h1) (by decide)
  · rintro rfl
    rfl

/-- The smallest magnitudes are below all that have 53 significant bits. -/
theorem log_value_lt {n : ℕ} (h : n ≠ 0) (hn : n < binadeSize) :
    Int.log 2 (value n) < -1022 := by
  have hv : value n = n * 2 ^ (-1074 : ℤ) := by
    rw [value, significand, exponent, if_pos hn, if_pos hn]
  have hpos : 0 < value n := by
    rw [hv]
    exact mul_pos (Nat.cast_pos.2 (Nat.pos_of_ne_zero h)) (zpow_pos two_pos _)
  have hlt : value n < 2 ^ (-1022 : ℤ) := by
    rw [hv, show (-1022 : ℤ) = 52 + -1074 from rfl, zpow_add₀ two_ne_zero, ← cast_binadeSize]
    exact mul_lt_mul_of_pos_right (Nat.cast_lt.2 hn) (zpow_pos two_pos _)
  exact (Int.lt_zpow_iff_log_lt one_lt_two hpos).1 (by exact_mod_cast hlt)

/-- The first of 53 significant bits stands 52 places above the last. -/
theorem log_value_eq {n : ℕ} (hn : binadeSize ≤ n) : Int.log 2 (value n) = 52 + exponent n := by
  obtain ⟨h1, h2⟩ := significand_bounds hn
  have hp : (0 : ℚ) < 2 ^ exponent n := zpow_pos two_pos _
  refine log_two_eq ?_ ?_
  · rw [zpow_add₀ two_ne_zero, ← cast_binadeSize, value]
    exact mul_le_mul_of_nonneg_right (Nat.cast_le.2 h1) hp.le
  · rw [add_right_comm, zpow_add₀ two_ne_zero, zpow_add₀ two_ne_zero, ← cast_binadeSize, value,
      zpow_one, mul_comm (binadeSize : ℚ)]
    exact mul_lt_mul_of_pos_right (by exact_mod_cast h2) hp

/-- A positive magnitude is rounded on its own grid. -/
theorem max_log_value {n : ℕ} (h : n ≠ 0) : max (-1074) (Int.log 2 (value n) - 52) = exponent n := by
  by_cases hn : n < binadeSize
  · have hlog := log_value_lt h hn
    rw [exponent, if_pos hn]
    omega
  · have hlog := log_value_eq (Nat.not_lt.1 hn)
    have he := neg_le_exponent n
    rw [hlog]
    omega

/-- **A magnitude is its own nearest**, however it is written as a quotient. -/
theorem nearest_of_value {a b n : ℕ} (hb : 0 < b) (h : (a : ℚ) / b = value n) :
    nearest a b = n := by
  have hb' : (b : ℚ) ≠ 0 := Nat.cast_ne_zero.2 hb.ne'
  have hzero : a = 0 ↔ n = 0 := by
    rw [← @value_eq_zero_iff n, ← h, div_eq_zero_iff, or_iff_left hb', Nat.cast_eq_zero]
  rw [nearest]
  split_ifs with ha
  · exact (hzero.1 ha).symm
  · have hx : gridExponent a b = exponent n := by
      rw [gridExponent, binade_eq_log (Nat.pos_of_ne_zero ha) hb, h,
        max_log_value (mt hzero.2 ha)]
    have hmul : a * twoTo (-exponent n).toNat
        = significand n * (b * twoTo (exponent n).toNat) := by
      have hq : (a : ℚ) = value n * b := by rw [← h, div_mul_cancel₀ _ hb']
      have hcast : (a : ℚ) * twoTo (-exponent n).toNat
          = significand n * (b * twoTo (exponent n).toNat) := by
        rw [hq, value, twoTo_toNat (exponent n)]
        ring
      exact_mod_cast hcast
    dsimp only
    rw [hx, hmul, roundHalfEven_mul _ (Nat.mul_pos hb (twoTo_pos _)), index_eq]

/-! ### Decimals that read back -/

/-- The decimal with all digits of a magnitude reads back. -/
theorem nearest_exactDecimal (n : ℕ) : (exactDecimal n).nearest = n := by
  rw [exactDecimal]
  split_ifs with he
  · refine nearest_of_value (Decimal.den_pos _) ?_
    have hden : den n = 1 := by
      rw [den, Int.toNat_of_nonpos (Int.neg_nonpos_of_nonneg he), twoTo_zero]
    rw [← num_div_den, hden]
    simp [Decimal.num, Decimal.den]
  · refine nearest_of_value (Decimal.den_pos _) ?_
    have h5 : ((Nat.pow 5 (-exponent n).toNat : ℕ) : ℚ) ≠ 0 :=
      Nat.cast_ne_zero.2 (Nat.pow_pos (by decide)).ne'
    have hnum : num n = significand n := by
      rw [num, Int.toNat_of_nonpos (by omega), twoTo_zero, Nat.mul_one]
    rw [Decimal.num, Decimal.den, Int.toNat_of_nonpos (by omega : exponent n ≤ 0), tenTo_zero,
      Nat.mul_one, tenTo_eq, Nat.cast_mul, Nat.cast_mul, mul_comm (significand n : ℚ),
      mul_div_mul_left _ _ h5, ← num_div_den, hnum, den]

/-- **The shortest decimal of a magnitude reads back.** -/
theorem nearest_shortest (n : ℕ) : (shortest n).nearest = n := by
  rw [shortest]
  split_ifs with hn
  · rw [hn]
    rfl
  · cases hs : search n 20 (topPlace n) with
    | none => exact nearest_exactDecimal n
    | some d => exact nearest_of_search hs

end Magnitude

end Formulary
