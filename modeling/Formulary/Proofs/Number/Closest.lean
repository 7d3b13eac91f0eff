import Formulary.Proofs.Number.Nearest

/-!
# The nearest magnitude is the closest

Magnitudes grow with their index, each by one unit of its own exponent (`value_succ`), so the larger
ones stand on coarser grids. A quotient is rounded on the grid of its binade. All magnitudes with
that exponent or a larger one stand on this grid, and the others lie below the binade, so what the
quotient is rounded to is the closest of all magnitudes, and of two equally close ones the one with
an even significand (`isClosest_nearest`).

The index `count` is rounded to as if there were a magnitude behind the last one. A quotient is
out of range from halfway between these two on (`IsClosest.count_le_iff`).
-/

namespace Formulary

/-! ### Rounding a quotient -/

/-- The rounded quotient is half a unit away at most. -/
theorem abs_sub_roundHalfEven_le (num : ℕ) {den : ℕ} (h : 0 < den) :
    |(num : ℚ) / den - roundHalfEven num den| ≤ 1 / 2 := by
  have hd : (0 : ℚ) < den := Nat.cast_pos.2 h
  have hlow : 2 * (roundHalfEven num den * den : ℚ) ≤ 2 * num + den := by
    exact_mod_cast two_mul_roundHalfEven_mul_le num h
  have hhigh : (2 * num : ℚ) ≤ 2 * (roundHalfEven num den * den) + den := by
    exact_mod_cast two_mul_le_roundHalfEven_mul num h
  rw [abs_le]
  constructor
  · rw [le_sub_iff_add_le, le_div_iff₀ hd]
    linarith
  · rw [sub_le_iff_le_add, div_le_iff₀ hd]
    linarith

/-- A quotient half a unit away on either side is rounded to an even number. -/
theorem roundHalfEven_even_of_tie {num den : ℕ} (hd : 0 < den)
    (h : 2 * num = 2 * (roundHalfEven num den * den) + den ∨
      2 * num + den = 2 * (roundHalfEven num den * den)) :
    roundHalfEven num den % 2 = 0 := by
  have hdiv := Nat.div_add_mod num den
  have hmod := Nat.mod_lt num hd
  have hlow := div_le_roundHalfEven num den
  have hhigh := roundHalfEven_le_div_add_one num den
  refine roundHalfEven_even_of_half ?_
  rw [mul_comm] at hdiv
  obtain hm | hm : roundHalfEven num den = num / den ∨ roundHalfEven num den = num / den + 1 := by
    omega
  · rw [hm] at h
    omega
  · rw [hm, Nat.add_mul] at h
    omega

theorem roundHalfEven_even_of_abs {num den : ℕ} (hd : 0 < den)
    (h : |(num : ℚ) / den - roundHalfEven num den| = 1 / 2) :
    roundHalfEven num den % 2 = 0 := by
  have hd' : (den : ℚ) ≠ 0 := Nat.cast_ne_zero.2 hd.ne'
  refine roundHalfEven_even_of_tie hd ?_
  rw [abs_eq (by norm_num), sub_eq_iff_eq_add, sub_eq_iff_eq_add, div_eq_iff hd',
    div_eq_iff hd'] at h
  refine h.imp (fun h => ?_) fun h => ?_
  · have : (2 * num : ℚ) = 2 * (roundHalfEven num den * den) + den := by linarith
    exact_mod_cast this
  · have : (2 * num : ℚ) + den = 2 * (roundHalfEven num den * den) := by linarith
    exact_mod_cast this

/-- What is within half a unit of a whole number is as far or further from the others. -/
theorem half_le_abs_sub {r : ℚ} {m j : ℕ} (h : |r - m| ≤ 1 / 2) (hj : j ≠ m) :
    1 / 2 ≤ |r - j| := by
  have hone : (1 : ℤ) ≤ |(j : ℤ) - m| := Int.one_le_abs (by omega)
  have hone' : (1 : ℚ) ≤ |(j : ℚ) - m| := by exact_mod_cast hone
  have htri := abs_sub_le (j : ℚ) r m
  rw [abs_sub_comm (j : ℚ) r] at htri
  linarith

namespace Magnitude

/-! ### The order of the magnitudes -/

theorem significand_lt (n : ℕ) : significand n < 2 * binadeSize := by
  by_cases h : n < binadeSize
  · rw [significand, if_pos h]
    omega
  · exact (significand_bounds (Nat.not_lt.1 h)).2

theorem significand_even_iff (n : ℕ) : significand n % 2 = 0 ↔ n % 2 = 0 := by
  rw [significand]
  split_ifs with h
  · rfl
  · simp only [binadeSize] at *
    omega

/-- The whole multiple of a power of two that stands at an index, up to the one that begins the
next binade. -/
theorem value_grid {x : ℤ} {m : ℕ} (hx : -1074 ≤ x) (hm : m ≤ 2 * binadeSize)
    (h : x = -1074 ∨ binadeSize ≤ m) :
    value ((x + 1074).toNat * binadeSize + m) = m * 2 ^ x := by
  have hpos : 0 < binadeSize := by decide
  obtain ⟨k, rfl⟩ : ∃ k : ℕ, x = (k : ℤ) - 1074 := ⟨(x + 1074).toNat, by omega⟩
  have hk : ((k : ℤ) - 1074 + 1074).toNat = k := by omega
  rw [hk, value, significand, exponent]
  rcases Nat.lt_or_ge m binadeSize with hlt | hge
  · -- one of the smallest magnitudes
    have h0 : k = 0 := by omega
    subst h0
    rw [Nat.zero_mul, Nat.zero_add, if_pos hlt, if_pos hlt]
    rfl
  · have hn : ¬ k * binadeSize + m < binadeSize := by omega
    rw [if_neg hn, if_neg hn, mul_comm k, Nat.mul_add_mod, Nat.mul_add_div hpos]
    rcases hm.lt_or_eq with hlt | rfl
    · -- 53 significant bits
      have hdiv : m / binadeSize = 1 := Nat.div_eq_of_lt_le (by omega) (by omega)
      have hmod : binadeSize + m % binadeSize = m := by
        rw [Nat.mod_eq_sub_mod hge, Nat.mod_eq_of_lt (by omega)]
        omega
      rw [hdiv, hmod]
      congr 2
      push_cast
      ring
    · -- the first magnitude of the next binade, with half the significand
      have hexp : ((k + 2 * binadeSize / binadeSize : ℕ) : ℤ) - 1075 = 1 + (k - 1074) := by
        rw [Nat.mul_div_cancel _ hpos]
        push_cast
        ring
      rw [Nat.mul_mod_left, Nat.add_zero, hexp, zpow_add₀ two_ne_zero, zpow_one]
      push_cast
      ring

/-- The next magnitude is larger by one unit of the exponent. -/
theorem value_succ (n : ℕ) : value (n + 1) = value n + 2 ^ exponent n := by
  have h : exponent n = -1074 ∨ binadeSize ≤ significand n + 1 := by
    by_cases hn : n < binadeSize
    · exact .inl (if_pos hn)
    · exact .inr (Nat.le_succ_of_le (significand_bounds (Nat.not_lt.1 hn)).1)
  have hgrid := value_grid (neg_le_exponent n) (Nat.succ_le_of_lt (significand_lt n)) h
  rw [Nat.succ_eq_add_one, ← add_assoc, index_eq] at hgrid
  rw [hgrid, value]
  push_cast
  ring

theorem value_strictMono : StrictMono value :=
  strictMono_nat_of_lt_succ fun n => by
    rw [value_succ]
    exact lt_add_of_pos_right _ (zpow_pos two_pos _)

theorem value_nonneg (n : ℕ) : 0 ≤ value n := by
  rw [← (@value_eq_zero_iff 0).2 rfl]
  exact value_strictMono.monotone n.zero_le

/-! ### The closest magnitude -/

/-- The `n`-th magnitude is closest to `q`, and where another one is as close, its significand is
even. -/
structure IsClosest (q : ℚ) (n : ℕ) : Prop where
  /-- No magnitude is closer. -/
  le : ∀ k, |q - value n| ≤ |q - value k|
  /-- Ties go to the even significand. -/
  even : ∀ k, k ≠ n → |q - value k| = |q - value n| → significand n % 2 = 0

namespace IsClosest

variable {q r : ℚ} {m n : ℕ}

/-- A number is not beyond the middle between the closest magnitude and a larger one. -/
theorem two_mul_le (h : IsClosest q m) (hmn : m < n) : 2 * q ≤ value m + value n := by
  have hv := value_strictMono hmn
  have hle := h.le n
  by_contra! hq
  rw [abs_of_nonneg (by linarith), le_abs] at hle
  rcases hle with hle | hle <;> linarith

/-- A number is not short of the middle between a smaller magnitude and the closest one. -/
theorem le_two_mul (h : IsClosest q n) (hmn : m < n) : value m + value n ≤ 2 * q := by
  have hv := value_strictMono hmn
  have hle := h.le m
  by_contra! hq
  rw [abs_sub_comm, abs_of_nonneg (by linarith), le_abs] at hle
  rcases hle with hle | hle <;> linarith

/-- In the middle between two magnitudes, the closest one is that with the even index. -/
theorem even_of_middle (h : IsClosest q m) (hne : m ≠ n) (hq : 2 * q = value m + value n) :
    m % 2 = 0 := by
  rw [← significand_even_iff]
  refine h.even n hne.symm ?_
  rw [show q - value n = -(q - value m) by linarith, abs_neg]

/-- A larger number has no smaller closest magnitude. -/
theorem mono (hq : IsClosest q m) (hr : IsClosest r n) (h : q ≤ r) : m ≤ n := by
  by_contra! hnm
  have hlow := hr.two_mul_le hnm
  have hhigh := hq.le_two_mul hnm
  -- both numbers stand in the middle, so both indices are even, and there is one in between
  have heven := hr.even_of_middle hnm.ne (by linarith)
  have heven' := hq.even_of_middle hnm.ne' (by linarith)
  have hnext := hr.two_mul_le n.lt_succ_self
  have hv : value (n + 1) < value m := value_strictMono (by omega)
  linarith

end IsClosest

/-- A magnitude is closest to itself. -/
theorem isClosest_value (n : ℕ) : IsClosest (value n) n where
  le k := by
    rw [sub_self, abs_zero]
    exact abs_nonneg _
  even k hk h := by
    rw [sub_self, abs_zero, abs_eq_zero, sub_eq_zero] at h
    exact absurd (value_strictMono.injective h).symm hk

/-- A magnitude with an exponent of `x` or more is a whole multiple of `2 ^ x`; any other lies below
the binade of 53-bit multiples. -/
theorem value_eq_or_lt (x : ℤ) (n : ℕ) :
    (∃ j : ℕ, value n = j * 2 ^ x) ∨ exponent n < x ∧ value n < binadeSize * 2 ^ x := by
  rcases le_or_gt x (exponent n) with h | h
  · refine .inl ⟨significand n * twoTo (exponent n - x).toNat, ?_⟩
    rw [Nat.cast_mul, cast_twoTo, Int.toNat_of_nonneg (by omega), mul_assoc,
      ← zpow_add₀ two_ne_zero, sub_add_cancel, value]
  · refine .inr ⟨h, ?_⟩
    have hs : (significand n : ℚ) < 2 * binadeSize := by exact_mod_cast significand_lt n
    have hp : (0 : ℚ) < 2 ^ exponent n := zpow_pos two_pos _
    calc value n < 2 * binadeSize * 2 ^ exponent n := mul_lt_mul_of_pos_right hs hp
      _ = binadeSize * 2 ^ (1 + exponent n) := by
        rw [zpow_add₀ two_ne_zero, zpow_one]
        ring
      _ ≤ binadeSize * 2 ^ x := by
        refine mul_le_mul_of_nonneg_left ?_ (Nat.cast_nonneg _)
        exact zpow_le_zpow_right₀ one_le_two (by omega)

/-- The whole multiple of `2 ^ x` that `q` is rounded to is the closest magnitude, if the grid is
the finest one or `q` is not below the binade of 53-bit multiples. -/
theorem isClosest_of_grid {q : ℚ} {x : ℤ} {m n : ℕ} (hv : value n = m * 2 ^ x)
    (hm : |q / 2 ^ x - m| ≤ 1 / 2) (heven : |q / 2 ^ x - m| = 1 / 2 → n % 2 = 0)
    (hlow : x = -1074 ∨ binadeSize * 2 ^ x ≤ q) : IsClosest q n := by
  have hp : (0 : ℚ) < 2 ^ x := zpow_pos two_pos x
  have hscale (j : ℕ) : |q - j * 2 ^ x| = |q / 2 ^ x - j| * 2 ^ x := by
    rw [← abs_of_pos hp, ← abs_mul, abs_of_pos hp, sub_mul, div_mul_cancel₀ _ hp.ne']
  -- The rounded multiple is at least as close as any other.
  have hgrid (j : ℕ) : |q - value n| ≤ |q - j * 2 ^ x| := by
    rw [hv, hscale, hscale]
    refine mul_le_mul_of_nonneg_right ?_ hp.le
    by_cases hj : j = m
    · rw [hj]
    · exact hm.trans (half_le_abs_sub hm hj)
  -- What lies below the binade is further away than its first multiple.
  have hbelow {k : ℕ} (hk : exponent k < x ∧ value k < binadeSize * 2 ^ x) :
      |q - value n| < |q - value k| := by
    have hq := hlow.resolve_left (by have := neg_le_exponent k; omega)
    refine (hgrid binadeSize).trans_lt ?_
    rw [abs_of_nonneg (by linarith), abs_of_nonneg (by linarith [hk.2])]
    linarith [hk.2]
  constructor
  · intro k
    obtain ⟨j, hj⟩ | hk := value_eq_or_lt x k
    · rw [hj]
      exact hgrid j
    · exact (hbelow hk).le
  · intro k hne htie
    obtain ⟨j, hj⟩ | hk := value_eq_or_lt x k
    · have hjm : j ≠ m := by
        rintro rfl
        exact hne (value_strictMono.injective (hj.trans hv.symm))
      rw [hj, hv, hscale, hscale, mul_left_inj' hp.ne'] at htie
      rw [significand_even_iff]
      exact heven (le_antisymm hm (htie ▸ half_le_abs_sub hm hjm))
    · exact absurd htie (hbelow hk).ne'

/-! ### Rounding a quotient to a magnitude -/

section Rounding

variable {a b : ℕ}

theorem gridExponent_eq (ha : 0 < a) (hb : 0 < b) :
    gridExponent a b = max (-1074) (Int.log 2 ((a : ℚ) / b) - 52) := by
  rw [gridExponent, binade_eq_log ha hb]

/-- A quotient has 53 bits on its grid, or fewer if it is the finest grid. -/
theorem gridExponent_bounds (ha : 0 < a) (hb : 0 < b) :
    (a : ℚ) / b < 2 * binadeSize * 2 ^ gridExponent a b ∧
      (gridExponent a b = -1074 ∨ binadeSize * 2 ^ gridExponent a b ≤ (a : ℚ) / b) := by
  have hq : (0 : ℚ) < a / b := div_pos (Nat.cast_pos.2 ha) (Nat.cast_pos.2 hb)
  have hscale (x : ℤ) : (binadeSize * 2 ^ x : ℚ) = 2 ^ (52 + x) := by
    rw [cast_binadeSize, zpow_add₀ two_ne_zero]
  have hx := gridExponent_eq ha hb
  constructor
  · have hlog : (a : ℚ) / b < 2 ^ (Int.log 2 ((a : ℚ) / b) + 1) := by
      exact_mod_cast Int.lt_zpow_succ_log_self one_lt_two ((a : ℚ) / b)
    rw [mul_assoc, hscale, ← zpow_one_add₀ two_ne_zero]
    exact hlog.trans_le (zpow_le_zpow_right₀ one_le_two (by omega))
  · refine or_iff_not_imp_left.2 fun hne => ?_
    have hlog : (2 : ℚ) ^ Int.log 2 ((a : ℚ) / b) ≤ a / b := by
      exact_mod_cast Int.zpow_log_le_self one_lt_two hq
    rw [hscale, show 52 + gridExponent a b = Int.log 2 ((a : ℚ) / b) by omega]
    exact hlog

theorem scaled_div (a b : ℕ) (x : ℤ) :
    ((a * twoTo (-x).toNat : ℕ) : ℚ) / (b * twoTo x.toNat : ℕ) = a / b / 2 ^ x := by
  have ht : (twoTo (-x).toNat : ℚ) ≠ 0 := Nat.cast_ne_zero.2 (twoTo_pos _).ne'
  rw [Nat.cast_mul, Nat.cast_mul, twoTo_toNat x, ← mul_assoc, mul_div_mul_right _ _ ht, div_div]

/-- A positive quotient is rounded to a whole multiple of the unit of its grid. -/
theorem exists_nearest_eq (ha : 0 < a) (hb : 0 < b) :
    ∃ m : ℕ, value (nearest a b) = m * 2 ^ gridExponent a b ∧
      |(a : ℚ) / b / 2 ^ gridExponent a b - m| ≤ 1 / 2 ∧
      (|(a : ℚ) / b / 2 ^ gridExponent a b - m| = 1 / 2 → nearest a b % 2 = 0) := by
  obtain ⟨hhigh, hlow⟩ := gridExponent_bounds ha hb
  have hx : -1074 ≤ gridExponent a b := le_max_left _ _
  rw [nearest, if_neg ha.ne']
  dsimp only
  generalize gridExponent a b = x at *
  have hp : (0 : ℚ) < 2 ^ x := zpow_pos two_pos x
  have hden : 0 < b * twoTo x.toNat := Nat.mul_pos hb (twoTo_pos _)
  have hdiv := scaled_div a b x
  rw [← div_lt_iff₀ hp, ← hdiv, div_lt_iff₀ (Nat.cast_pos.2 hden)] at hhigh
  rw [← le_div_iff₀ hp, ← hdiv, le_div_iff₀ (Nat.cast_pos.2 hden)] at hlow
  rw [← hdiv]
  generalize a * twoTo (-x).toNat = num at *
  generalize b * twoTo x.toNat = den at *
  have hm : roundHalfEven num den ≤ 2 * binadeSize := by
    have := roundHalfEven_le_div_add_one num den
    have : num / den < 2 * binadeSize :=
      Nat.div_lt_of_lt_mul (by rw [mul_comm]; exact_mod_cast hhigh)
    omega
  have hm' : x = -1074 ∨ binadeSize ≤ roundHalfEven num den := by
    refine hlow.imp_right fun h => le_trans ?_ (div_le_roundHalfEven num den)
    exact (Nat.le_div_iff_mul_le hden).2 (by exact_mod_cast h)
  refine ⟨roundHalfEven num den, value_grid hx hm hm', abs_sub_roundHalfEven_le num hden,
    fun h => ?_⟩
  have heven := roundHalfEven_even_of_abs hden h
  simp only [binadeSize] at *
  omega

/-- **The nearest magnitude is the closest of all magnitudes**, and where two are equally close,
the one with an even significand. -/
theorem isClosest_nearest (a : ℕ) (hb : 0 < b) : IsClosest ((a : ℚ) / b) (nearest a b) := by
  rcases a.eq_zero_or_pos with rfl | ha
  · have hn : nearest 0 b = 0 := if_pos rfl
    rw [hn, Nat.cast_zero, zero_div]
    refine ⟨fun k => ?_, fun _ _ _ => rfl⟩
    rw [value_eq_zero_iff.2 rfl, sub_zero, abs_zero]
    exact abs_nonneg _
  · obtain ⟨m, hv, hm, heven⟩ := exists_nearest_eq ha hb
    exact isClosest_of_grid hv hm heven (gridExponent_bounds ha hb).2

end Rounding

/-! ### The last magnitude -/

theorem value_count : value count = 2 ^ 1024 := by
  have hs : significand count = binadeSize := rfl
  have he : exponent count = 972 := rfl
  rw [value, hs, he, cast_binadeSize, ← zpow_add₀ two_ne_zero]
  rfl

/-- Halfway between the last magnitude and the index that stands for infinity. -/
theorem value_last_add : value (count - 1) + value count = 2 * (2 ^ 1024 - 2 ^ 970) := by
  have he : exponent (count - 1) = 971 := rfl
  have hsucc : value count = value (count - 1) + 2 ^ (971 : ℤ) := he ▸ value_succ (count - 1)
  have hpow : (2 : ℚ) ^ (971 : ℤ) = 2 * 2 ^ 970 := by
    rw [show (971 : ℤ) = ((970 + 1 : ℕ) : ℤ) from rfl, zpow_natCast, pow_succ']
  rw [hpow] at hsucc
  rw [← value_count]
  generalize (2 : ℚ) ^ 970 = unit at *
  linarith

/-- **A number is out of range from halfway between the last magnitude and the next power of two
on**: the last magnitude has an odd significand, so half the way is too far. -/
theorem IsClosest.count_le_iff {q : ℚ} {n : ℕ} (h : IsClosest q n) :
    count ≤ n ↔ (2 : ℚ) ^ 1024 - 2 ^ 970 ≤ q := by
  have hsum := value_last_add
  generalize (2 : ℚ) ^ 1024 - 2 ^ 970 = limit at *
  have hlast : count - 1 < count := by decide
  constructor
  · intro hn
    have hv : value count ≤ value n := value_strictMono.monotone hn
    have hq := h.le_two_mul (hlast.trans_le hn)
    linarith
  · intro hq
    by_contra! hn
    have hv : value n ≤ value (count - 1) := value_strictMono.monotone (by omega)
    have hle := h.two_mul_le hn
    have hvn : value n = value (count - 1) := by linarith
    have heven := h.even_of_middle hn.ne (by linarith)
    rw [value_strictMono.injective hvn] at heven
    exact absurd heven (by decide)

end Magnitude

end Formulary
