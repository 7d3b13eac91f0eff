import Formulary.Proofs.Number.Closest
import Mathlib.Algebra.Order.Floor.Semifield

/-!
# The shortest decimal is the shortest

A decimal lies on the grid of its power of ten, and a larger decimal never reads back as a smaller
magnitude. So if any point of a grid reads back as a given magnitude, one of the two points next to
the magnitude does (`nearest_below_or_above`), and trying these two settles the grid. The search
begins above the magnitude, where no coarser grid has a point that reads back
(`exponent_le_topPlace`), and it comes to a grid fine enough, since seventeen digits always read
back (`onGrid?_ne_none`). So it ends with a hit, on the coarsest grid that has one
(`search_eq_some_shortest`), and a decimal on the coarsest grid has the fewest digits
(`isShortest_shortest`).
-/

namespace Formulary

theorem ten_zpow_pos (e : ℤ) : (0 : ℚ) < 10 ^ e := zpow_pos (by norm_num) e

/-! ### The value of a decimal -/

namespace Decimal

variable {d d' : Decimal} {n : ℕ}

/-- The number that a decimal stands for. -/
def value (d : Decimal) : ℚ := d.digits * 10 ^ d.exponent

theorem num_div_den (d : Decimal) : (d.num : ℚ) / d.den = d.value := by
  have ht : (tenTo (-d.exponent).toNat : ℚ) ≠ 0 := Nat.cast_ne_zero.2 (tenTo_pos _).ne'
  rw [num, den, Nat.cast_mul, tenTo_toNat, value]
  field_simp

theorem isClosest (d : Decimal) : Magnitude.IsClosest d.value d.nearest := by
  rw [← num_div_den]
  exact Magnitude.isClosest_nearest d.num d.den_pos

/-- A larger decimal reads back as no smaller magnitude. -/
theorem nearest_mono (h : d.value ≤ d'.value) : d.nearest ≤ d'.nearest :=
  d.isClosest.mono d'.isClosest h

theorem nearest_congr (h : d.value = d'.value) : d.nearest = d'.nearest :=
  le_antisymm (nearest_mono h.le) (nearest_mono h.ge)

theorem nearest_le_of_value_le (h : d.value ≤ Magnitude.value n) : d.nearest ≤ n :=
  d.isClosest.mono (Magnitude.isClosest_value n) h

theorem le_nearest_of_le_value (h : Magnitude.value n ≤ d.value) : n ≤ d.nearest :=
  (Magnitude.isClosest_value n).mono d.isClosest h

theorem digits_pos (h : d.nearest ≠ 0) : 0 < d.digits := by
  refine Nat.pos_of_ne_zero fun hd => h ?_
  rw [nearest, num, hd, Nat.zero_mul]
  rfl

end Decimal

namespace Magnitude

variable {n : ℕ} {e : ℤ} {d : Decimal}

/-! ### The two points next to a magnitude -/

theorem scaled_value (n : ℕ) (e : ℤ) :
    ((num n * tenTo (-e).toNat : ℕ) : ℚ) / (den n * tenTo e.toNat : ℕ) = value n / 10 ^ e := by
  have ht : (tenTo (-e).toNat : ℚ) ≠ 0 := Nat.cast_ne_zero.2 (tenTo_pos _).ne'
  have hp := (ten_zpow_pos e).ne'
  have hd : (den n : ℚ) ≠ 0 := Nat.cast_ne_zero.2 (twoTo_pos _).ne'
  rw [Nat.cast_mul, Nat.cast_mul, tenTo_toNat e, ← num_div_den]
  field_simp

/-- The point below counts the whole steps of the grid up to the magnitude. -/
theorem digits_below (n : ℕ) (e : ℤ) : (below n e).digits = ⌊value n / 10 ^ e⌋₊ := by
  rw [← scaled_value, Nat.floor_div_eq_div]
  rfl

theorem value_below (n : ℕ) (e : ℤ) : (below n e).value = ⌊value n / 10 ^ e⌋₊ * 10 ^ e := by
  rw [← digits_below]
  rfl

theorem value_above (n : ℕ) (e : ℤ) :
    (above n e).value = ((⌊value n / 10 ^ e⌋₊ + 1 : ℕ) : ℚ) * 10 ^ e := by
  rw [← digits_below]
  rfl

theorem value_below_le (n : ℕ) (e : ℤ) : (below n e).value ≤ value n := by
  rw [value_below, ← le_div_iff₀ (ten_zpow_pos e)]
  exact Nat.floor_le (div_nonneg (value_nonneg n) (ten_zpow_pos e).le)

theorem lt_value_above (n : ℕ) (e : ℤ) : value n < (above n e).value := by
  rw [value_above, ← div_lt_iff₀ (ten_zpow_pos e), Nat.cast_succ]
  exact Nat.lt_floor_add_one _

/-- The next point of the grid is one step further. -/
theorem value_above_sub_below (n : ℕ) (e : ℤ) :
    (above n e).value - (below n e).value = 10 ^ e := by
  rw [value_below, value_above]
  push_cast
  ring

/-- If a point of a grid reads back as a magnitude, the point next to the magnitude on the same side
does. -/
theorem nearest_below_or_above (hd : d.nearest = n) :
    d.value ≤ (below n d.exponent).value ∧ (below n d.exponent).nearest = n ∨
      (above n d.exponent).value ≤ d.value ∧ (above n d.exponent).nearest = n := by
  have hp := ten_zpow_pos d.exponent
  rcases le_or_gt d.value (value n) with h | h
  · have hle : d.value ≤ (below n d.exponent).value := by
      rw [value_below]
      exact mul_le_mul_of_nonneg_right (Nat.cast_le.2 (Nat.le_floor ((le_div_iff₀ hp).2 h))) hp.le
    refine .inl ⟨hle, le_antisymm (Decimal.nearest_le_of_value_le (value_below_le n _)) ?_⟩
    exact hd.symm.trans_le (Decimal.nearest_mono hle)
  · have hle : (above n d.exponent).value ≤ d.value := by
      have hfloor : ⌊value n / 10 ^ d.exponent⌋₊ < d.digits :=
        (Nat.floor_lt (div_nonneg (value_nonneg n) hp.le)).2 ((div_lt_iff₀ hp).2 h)
      rw [value_above]
      exact mul_le_mul_of_nonneg_right (Nat.cast_le.2 (Nat.succ_le_of_lt hfloor)) hp.le
    refine .inr ⟨hle, le_antisymm ?_ (Decimal.le_nearest_of_le_value (lt_value_above n _).le)⟩
    exact (Decimal.nearest_mono hle).trans_eq hd

/-! ### One grid -/

theorem onGrid?_eq_none_iff (n : ℕ) (e : ℤ) :
    onGrid? n e = none ↔ (below n e).nearest ≠ n ∧ (above n e).nearest ≠ n := by
  rw [onGrid?]
  split_ifs <;> simp [*]

/-- A grid without a hit has no point that reads back. -/
theorem nearest_ne_of_onGrid?_eq_none (h : onGrid? n d.exponent = none) : d.nearest ≠ n := by
  rw [onGrid?_eq_none_iff] at h
  intro hd
  rcases nearest_below_or_above hd with hb | ha
  · exact h.1 hb.2
  · exact h.2 ha.2

theorem two_mul_mod_lt_iff (m : ℕ) {u : ℕ} (h : 0 < u) :
    2 * (m % u) < u ↔ 2 * ((m : ℚ) / u) < 2 * ⌊(m : ℚ) / u⌋₊ + 1 := by
  have hdiv := Nat.div_add_mod m u
  have hnat : 2 * (m % u) < u ↔ 2 * m < (2 * (m / u) + 1) * u := by
    rw [Nat.add_mul, Nat.one_mul, Nat.mul_assoc, mul_comm (m / u)]
    omega
  rw [hnat, Nat.floor_div_eq_div, ← mul_div_assoc, div_lt_iff₀ (Nat.cast_pos.2 h)]
  exact_mod_cast Iff.rfl

theorem nearerBelow_iff (n : ℕ) (e : ℤ) :
    nearerBelow n e = true ↔ value n - (below n e).value < (above n e).value - value n := by
  have hp := ten_zpow_pos e
  have hunit : 0 < den n * tenTo e.toNat := Nat.mul_pos (twoTo_pos _) (tenTo_pos _)
  have hscale : value n = value n / 10 ^ e * 10 ^ e := (div_mul_cancel₀ _ hp.ne').symm
  rw [nearerBelow, decide_eq_true_iff, two_mul_mod_lt_iff _ hunit, scaled_value, value_below,
    value_above, ← mul_lt_mul_iff_of_pos_right hp]
  generalize value n / 10 ^ e = q at *
  rw [hscale]
  push_cast
  constructor <;> intro h <;> linarith

theorem onGrid?_cases (h : onGrid? n e = some d) :
    d = below n e ∧ ((above n e).nearest = n → nearerBelow n e = true) ∨
      d = above n e ∧ ((below n e).nearest = n → nearerBelow n e = false) := by
  rw [onGrid?] at h
  split_ifs at h with hb ha ha
  · cases h
    exact .inr ⟨rfl, fun _ => ha.2⟩
  · cases h
    refine .inl ⟨rfl, fun h => ?_⟩
    simpa [h] using ha
  · cases h
    exact .inr ⟨rfl, fun h => absurd h hb⟩

theorem exponent_of_onGrid? (h : onGrid? n e = some d) : d.exponent = e := by
  obtain ⟨rfl, -⟩ | ⟨rfl, -⟩ := onGrid?_cases h <;> rfl

/-- **The hit of a grid is the nearest of its points that read back.** -/
theorem abs_sub_onGrid?_le {d' : Decimal} (h : onGrid? n e = some d) (hd' : d'.nearest = n)
    (he : d'.exponent = e) : |value n - d.value| ≤ |value n - d'.value| := by
  subst he
  have hbelow := value_below_le n d'.exponent
  have habove := lt_value_above n d'.exponent
  have hcases := onGrid?_cases h
  rw [Bool.eq_false_iff, ne_eq, nearerBelow_iff, not_lt] at hcases
  obtain ⟨hle, hnear⟩ | ⟨hle, hnear⟩ := nearest_below_or_above hd'
  · rw [abs_of_nonneg (by linarith : 0 ≤ value n - d'.value)]
    obtain ⟨rfl, -⟩ | ⟨rfl, hnot⟩ := hcases
    · rw [abs_of_nonneg (by linarith)]
      linarith
    · rw [abs_of_nonpos (by linarith)]
      linarith [hnot hnear]
  · rw [abs_of_nonpos (by linarith : value n - d'.value ≤ 0)]
    obtain ⟨rfl, hnot⟩ | ⟨rfl, -⟩ := hcases
    · rw [abs_of_nonneg (by linarith)]
      linarith [hnot hnear]
    · rw [abs_of_nonpos (by linarith)]
      linarith

/-! ### The search -/

/-- The search ends at the first grid with a hit. -/
theorem search_cases {fuel : ℕ} (h : search n fuel e = some d) :
    onGrid? n d.exponent = some d ∧ ∀ e', d.exponent < e' → e' ≤ e → onGrid? n e' = none := by
  induction fuel generalizing e with
  | zero => cases h
  | succ fuel ih =>
    rw [search, Option.or_eq_some_iff] at h
    rcases h with h | ⟨hnone, h⟩
    · have he := exponent_of_onGrid? h
      refine ⟨he ▸ h, fun e' hlt hle => ?_⟩
      omega
    · obtain ⟨hd, hcoarser⟩ := ih h
      refine ⟨hd, fun e' hlt hle => ?_⟩
      rcases hle.lt_or_eq with hlt' | rfl
      · exact hcoarser e' hlt (by omega)
      · exact hnone

/-- It does not miss a hit on the grids that it tries. -/
theorem exists_search {fuel : ℕ} {e' : ℤ} (hlow : e - fuel < e') (hhigh : e' ≤ e)
    (h : onGrid? n e' ≠ none) : ∃ d, search n fuel e = some d := by
  induction fuel generalizing e with
  | zero =>
    push_cast at hlow
    omega
  | succ fuel ih =>
    rw [search]
    cases hgrid : onGrid? n e with
    | some d => exact ⟨d, rfl⟩
    | none =>
      have hne : e' ≠ e := by
        rintro rfl
        exact h hgrid
      push_cast at hlow
      exact ih (by omega) (by omega)

/-! ### Where the search begins -/

theorem digitCount_bounds {m : ℕ} (h : 0 < m) :
    10 ^ (digitCount m - 1) ≤ m ∧ m < 10 ^ digitCount m := by
  have hpos : 0 < digitCount m := Nat.length_toDigits_pos
  refine ⟨?_, (Nat.length_toDigits_le_iff (by decide) hpos).1 le_rfl⟩
  by_contra! hlt
  rcases Nat.eq_zero_or_pos (digitCount m - 1) with hzero | hone
  · rw [hzero] at hlt
    omega
  · have hle := (Nat.length_toDigits_le_iff (by decide) hone).2 hlt
    rw [← digitCount] at hle
    omega

/-- A quotient of one or more has as many places as its whole part. -/
theorem div_digitCount_bounds {a b : ℕ} (hb : 0 < b) (h : b ≤ a) :
    (10 : ℚ) ^ ((digitCount (a / b) : ℤ) - 1) ≤ (a : ℚ) / b ∧
      (a : ℚ) / b < 10 ^ (digitCount (a / b) : ℤ) := by
  have hpos : 0 < digitCount (a / b) := Nat.length_toDigits_pos
  obtain ⟨hlow, hhigh⟩ := digitCount_bounds (Nat.div_pos h hb)
  have hq : (0 : ℚ) ≤ (a : ℚ) / b := div_nonneg (Nat.cast_nonneg _) (Nat.cast_nonneg _)
  constructor
  · have hfloor := Nat.floor_le hq
    rw [Nat.floor_div_eq_div] at hfloor
    rw [← Nat.cast_pred hpos, zpow_natCast]
    exact le_trans (by exact_mod_cast hlow) hfloor
  · have hfloor := Nat.lt_floor_add_one ((a : ℚ) / b)
    rw [Nat.floor_div_eq_div] at hfloor
    rw [zpow_natCast]
    exact hfloor.trans_le (by exact_mod_cast hhigh)

theorem value_pos (h : n ≠ 0) : 0 < value n :=
  lt_of_le_of_ne (value_nonneg n) (Ne.symm (mt value_eq_zero_iff.1 h))

/-- The search begins above the magnitude, and by no more than two places. -/
theorem topPlace_bounds (h : n ≠ 0) :
    (10 : ℚ) ^ (topPlace n - 2) ≤ value n ∧ value n < 10 ^ topPlace n := by
  have hden : 0 < den n := twoTo_pos _
  have hv := value_pos h
  rw [topPlace, ← num_div_den]
  split_ifs with hle
  · obtain ⟨hlow, hhigh⟩ := div_digitCount_bounds hden hle
    exact ⟨(zpow_le_zpow_right₀ (by norm_num) (by omega)).trans hlow, hhigh⟩
  · have hnum : 0 < num n := by
      refine Nat.pos_of_ne_zero fun hzero => hv.ne' ?_
      rw [← num_div_den, hzero, Nat.cast_zero, zero_div]
    obtain ⟨hlow, hhigh⟩ := div_digitCount_bounds hnum (not_le.1 hle).le
    rw [num_div_den] at *
    rw [← inv_div, num_div_den] at hlow hhigh
    rw [le_inv_comm₀ (ten_zpow_pos _) hv, ← zpow_neg] at hlow
    rw [inv_lt_comm₀ hv (ten_zpow_pos _), ← zpow_neg] at hhigh
    refine ⟨le_of_eq_of_le ?_ hhigh.le, hlow.trans_lt (zpow_lt_zpow_right₀ (by norm_num) ?_)⟩
    · congr 1
      omega
    · omega

theorem two_zpow_exponent_le (h : n ≠ 0) : (2 : ℚ) ^ exponent n ≤ value n := by
  have hs : significand n ≠ 0 := by
    intro hs
    refine (value_pos h).ne' ?_
    rw [value, hs, Nat.cast_zero, zero_mul]
  have hone : (1 : ℚ) ≤ significand n := by exact_mod_cast Nat.one_le_iff_ne_zero.2 hs
  exact le_mul_of_one_le_left (zpow_pos two_pos _).le hone

/-- Above the place where the search begins nothing reads back. -/
theorem exponent_le_topPlace (h : n ≠ 0) (hd : d.nearest = n) : d.exponent ≤ topPlace n := by
  by_contra! hlt
  have hdigits : (1 : ℚ) ≤ d.digits := by exact_mod_cast Decimal.digits_pos (hd.trans_ne h)
  have hten : (10 : ℚ) ^ topPlace n * 10 ≤ d.value := by
    calc (10 : ℚ) ^ topPlace n * 10 = 10 ^ (topPlace n + 1) := by
          rw [zpow_add_one₀ (by norm_num)]
      _ ≤ 10 ^ d.exponent := zpow_le_zpow_right₀ (by norm_num) (by omega)
      _ ≤ d.value := le_mul_of_one_le_left (ten_zpow_pos _).le hdigits
  -- even the next magnitude is smaller
  have hnext : value (n + 1) ≤ d.value := by
    have htop := (topPlace_bounds h).2
    have hstep := two_zpow_exponent_le h
    have hv := value_pos h
    rw [value_succ]
    linarith
  have hle := Decimal.le_nearest_of_le_value hnext
  omega

theorem exponent_mono {m n : ℕ} (h : m ≤ n) : exponent m ≤ exponent n := by
  have hdiv : m / binadeSize ≤ n / binadeSize := Nat.div_le_div_right h
  have hlow := neg_le_exponent n
  rw [exponent]
  split_ifs with hm
  · exact hlow
  · rw [exponent, if_neg (by omega)]
    omega

/-- **Seventeen digits are enough**: the step of their grid is less than the distance from one
middle between magnitudes to the next. -/
theorem onGrid?_ne_none (h : n ≠ 0) (he : (10 : ℚ) ^ (e + 16) ≤ value n) : onGrid? n e ≠ none := by
  obtain ⟨m, rfl⟩ : ∃ m, n = m + 1 := ⟨n - 1, by omega⟩
  intro hnone
  rw [onGrid?_eq_none_iff] at hnone
  have hbelow : (below (m + 1) e).nearest < m + 1 :=
    lt_of_le_of_ne (Decimal.nearest_le_of_value_le (value_below_le _ e)) hnone.1
  have habove : m + 1 < (above (m + 1) e).nearest :=
    lt_of_le_of_ne (Decimal.le_nearest_of_le_value (lt_value_above _ e).le) hnone.2.symm
  -- the points below and above lie beyond the middles on either side
  have hlow := (below (m + 1) e).isClosest.two_mul_le hbelow
  have hhigh := (above (m + 1) e).isClosest.le_two_mul habove
  have hprev : value (below (m + 1) e).nearest ≤ value m :=
    value_strictMono.monotone (Nat.le_of_lt_succ hbelow)
  have hnext : value (m + 2) ≤ value (above (m + 1) e).nearest :=
    value_strictMono.monotone habove
  have hstep := value_above_sub_below (m + 1) e
  rw [value_succ] at hnext
  -- and the magnitudes are too close for that
  have hunit : (2 : ℚ) ^ exponent m ≤ 10 ^ e := by
    have hle : (2 : ℚ) ^ exponent m ≤ 2 ^ exponent (m + 1) :=
      zpow_le_zpow_right₀ one_le_two (exponent_mono m.le_succ)
    have hsucc := value_succ m
    linarith
  have hvalue : value (m + 1) ≤ 2 * binadeSize * 2 ^ exponent m := by
    have hs : (significand m + 1 : ℚ) ≤ 2 * binadeSize := by exact_mod_cast significand_lt m
    calc value (m + 1) = (significand m + 1) * 2 ^ exponent m := by
          rw [value_succ, value]
          ring
      _ ≤ 2 * binadeSize * 2 ^ exponent m := mul_le_mul_of_nonneg_right hs (zpow_pos two_pos _).le
  have hsize : (2 * binadeSize : ℚ) < 10 ^ (16 : ℤ) := by norm_num [binadeSize]
  have hlt : (2 * binadeSize : ℚ) * 10 ^ e < 10 ^ (e + 16) := by
    rw [add_comm, zpow_add₀ (by norm_num)]
    exact mul_lt_mul_of_pos_right hsize (ten_zpow_pos e)
  have hle : (2 * binadeSize : ℚ) * 2 ^ exponent m ≤ 2 * binadeSize * 10 ^ e :=
    mul_le_mul_of_nonneg_left hunit (by positivity)
  linarith

/-! ### The shortest decimal -/

theorem log_ten_bounds (h : n ≠ 0) :
    (10 : ℚ) ^ Int.log 10 (value n) ≤ value n ∧ value n < 10 ^ (Int.log 10 (value n) + 1) :=
  ⟨by exact_mod_cast Int.zpow_log_le_self (by norm_num) (value_pos h),
    by exact_mod_cast Int.lt_zpow_succ_log_self (by norm_num) (value n)⟩

/-- The search finds the shortest decimal. -/
theorem search_eq_some_shortest (h : n ≠ 0) : search n 20 (topPlace n) = some (shortest n) := by
  obtain ⟨hlog, hlog'⟩ := log_ten_bounds h
  obtain ⟨hlow, hhigh⟩ := topPlace_bounds h
  have hgrid : onGrid? n (Int.log 10 (value n) - 16) ≠ none :=
    onGrid?_ne_none h (by rwa [sub_add_cancel])
  have htop : topPlace n - 2 < Int.log 10 (value n) + 1 :=
    (zpow_lt_zpow_iff_right₀ (by norm_num)).1 (hlow.trans_lt hlog')
  have htop' : Int.log 10 (value n) < topPlace n :=
    (zpow_lt_zpow_iff_right₀ (by norm_num)).1 (hlog.trans_lt hhigh)
  obtain ⟨d, hd⟩ : ∃ d, search n 20 (topPlace n) = some d := by
    refine exists_search ?_ ?_ hgrid <;> omega
  rw [shortest, if_neg h, hd]
  rfl

/-- No decimal on a coarser grid reads back. -/
theorem exponent_le_shortest (h : n ≠ 0) (hd : d.nearest = n) :
    d.exponent ≤ (shortest n).exponent := by
  by_contra! hlt
  obtain ⟨-, hcoarser⟩ := search_cases (search_eq_some_shortest h)
  exact nearest_ne_of_onGrid?_eq_none (hcoarser _ hlt (exponent_le_topPlace h hd)) hd

/-- None on the same grid is nearer. -/
theorem abs_sub_shortest_le (h : n ≠ 0) (hd : d.nearest = n)
    (he : d.exponent = (shortest n).exponent) :
    |value n - (shortest n).value| ≤ |value n - d.value| :=
  abs_sub_onGrid?_le (search_cases (search_eq_some_shortest h)).1 hd he

theorem length_digitChars_le_iff {k : ℕ} (hk : 0 < k) (d : Decimal) :
    d.digitChars.length ≤ k ↔ d.digits < 10 ^ k :=
  Nat.length_toDigits_le_iff (by decide) hk

/-- A power of ten, as a decimal with one digit. -/
theorem value_one (e : ℤ) : (⟨1, e⟩ : Decimal).value = 10 ^ e := by
  rw [Decimal.value, Nat.cast_one, one_mul]

/-- None has fewer digits. With fewer digits it would stay below a power of ten that is not beyond
the shortest decimal, and this power would read back, too. -/
theorem length_shortest_le (hd : d.nearest = n) :
    (shortest n).digitChars.length ≤ d.digitChars.length := by
  have hk : 0 < d.digitChars.length := Nat.length_toDigits_pos
  rcases eq_or_ne n 0 with rfl | h
  · exact hk
  · by_contra! hlt
    have hs := mt (length_digitChars_le_iff hk (shortest n)).2 (not_le.2 hlt)
    have hdigits := (length_digitChars_le_iff hk d).1 le_rfl
    have he := exponent_le_shortest h hd
    generalize d.digitChars.length = k at *
    have hpower : (⟨1, k + (shortest n).exponent⟩ : Decimal).value
        = 10 ^ k * 10 ^ (shortest n).exponent := by
      rw [value_one, zpow_add₀ (by norm_num), zpow_natCast]
    have hlow : d.value ≤ (⟨1, k + (shortest n).exponent⟩ : Decimal).value := by
      rw [hpower]
      exact mul_le_mul (by exact_mod_cast hdigits.le) (zpow_le_zpow_right₀ (by norm_num) he)
        (ten_zpow_pos _).le (by positivity)
    have hhigh : (⟨1, k + (shortest n).exponent⟩ : Decimal).value ≤ (shortest n).value := by
      rw [hpower]
      exact mul_le_mul_of_nonneg_right (by exact_mod_cast not_lt.1 hs) (ten_zpow_pos _).le
    have hnearest : (⟨1, k + (shortest n).exponent⟩ : Decimal).nearest = n :=
      le_antisymm ((Decimal.nearest_mono hhigh).trans_eq (nearest_shortest n))
        (hd.symm.trans_le (Decimal.nearest_mono hlow))
    have hle := exponent_le_shortest h hnearest
    dsimp only at hle
    omega

theorem length_shortest_le_of_digits_le {k : ℕ} (hk : 0 < k) (hd : d.nearest = n)
    (hdigits : d.digits ≤ 10 ^ k) : (shortest n).digitChars.length ≤ k := by
  rcases hdigits.lt_or_eq with hlt | heq
  · exact (length_shortest_le hd).trans ((length_digitChars_le_iff hk d).2 hlt)
  · have hvalue : (⟨1, k + d.exponent⟩ : Decimal).value = d.value := by
      rw [value_one, zpow_add₀ (by norm_num), zpow_natCast, Decimal.value, heq, Nat.cast_pow]
      rfl
    have hone := Nat.one_lt_pow hk.ne' (show 1 < 10 by decide)
    exact (length_shortest_le ((Decimal.nearest_congr hvalue).trans hd)).trans
      ((length_digitChars_le_iff hk _).2 hone)

theorem length_shortest_le_seventeen (n : ℕ) : (shortest n).digitChars.length ≤ 17 := by
  rcases eq_or_ne n 0 with rfl | h
  · decide
  · obtain ⟨hlog, hlog'⟩ := log_ten_bounds h
    generalize Int.log 10 (value n) = place at *
    have hfloor : ⌊value n / 10 ^ (place - 16)⌋₊ < 10 ^ 17 := by
      rw [Nat.floor_lt (div_nonneg (value_nonneg n) (ten_zpow_pos _).le),
        div_lt_iff₀ (ten_zpow_pos _)]
      refine hlog'.trans_eq ?_
      rw [Nat.cast_pow, ← zpow_natCast, Nat.cast_ofNat, ← zpow_add₀ (by norm_num)]
      congr 1
      omega
    have hgrid := onGrid?_ne_none h (e := place - 16) (by rwa [sub_add_cancel])
    rw [ne_eq, onGrid?_eq_none_iff, not_and_or, not_not, not_not] at hgrid
    rw [← digits_below] at hfloor
    rcases hgrid with hb | ha
    · exact length_shortest_le_of_digits_le (by decide) hb hfloor.le
    · exact length_shortest_le_of_digits_le (by decide) ha hfloor

/-- **The shortest decimal is the shortest**: it has seventeen digits at most, none that reads back
as the same magnitude has fewer digits, and none on the same grid is nearer. -/
theorem isShortest_shortest (n : ℕ) :
    (shortest n).nearest = n ∧ (shortest n).digitChars.length ≤ 17 ∧
    ∀ d : Decimal, d.nearest = n →
      (shortest n).digitChars.length ≤ d.digitChars.length ∧
      (d.exponent = (shortest n).exponent →
        |value n - (shortest n).value| ≤ |value n - d.value|) := by
  refine ⟨nearest_shortest n, length_shortest_le_seventeen n, fun d hd =>
    ⟨length_shortest_le hd, fun he => ?_⟩⟩
  rcases eq_or_ne n 0 with rfl | h
  · have hzero : value 0 - (shortest 0).value = 0 := by
      rw [value_eq_zero_iff.2 rfl, Decimal.value, shortest, if_pos rfl]
      simp
    rw [hzero, abs_zero]
    exact abs_nonneg _
  · exact abs_sub_shortest_le h hd he

end Magnitude

end Formulary
