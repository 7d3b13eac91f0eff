import Formulary.Proofs.Number.Closest
import Formulary.Proofs.Number.Double

/-!
# The nearest double

A finite double comes apart into its sign, its mantissa and its exponent, and these are those of its
magnitude (`unpack_of_isFinite`). So it stands for a rational number (`exactValue`), and what
stands at the index of the closest magnitude is the nearest of all finite doubles, of either sign
(`isNearest_of_isClosest`). There is no other (`IsNearest.eq`): between two doubles with even
mantissas stands a third.
-/

namespace Formulary.Magnitude

open Float.Model Float.Model.UnpackedFloat

/-! ### The parts of a double -/

theorem ofFloat_div_binadeSize (x : Float) :
    ofFloat x / binadeSize = (@unpackExponent Format.binary64 x.toBits.toBitVec).toNat := by
  rw [toNat_unpackExponent, ofFloat]
  simp only [signPlace, binadeSize]
  omega

theorem ofFloat_mod_binadeSize (x : Float) :
    ofFloat x % binadeSize = (@unpackMantissa Format.binary64 x.toBits.toBitVec).toNat := by
  rw [toNat_unpackMantissa, ofFloat]
  simp only [signPlace, binadeSize]
  omega

/-- The mantissa of a double with all bits of its exponent clear is its magnitude's index. -/
theorem ofFloat_lt_binadeSize_iff (x : Float) :
    ofFloat x < binadeSize ↔ @unpackExponent Format.binary64 x.toBits.toBitVec = 0#_ := by
  have hzero : (0#11).toNat = 0 := rfl
  rw [← BitVec.toNat_inj, ← ofFloat_div_binadeSize]
  show _ ↔ _ = (0#11).toNat
  rw [hzero, Nat.div_eq_zero_iff, or_iff_right (by decide)]

/-- The sign of an unpacked double. -/
theorem ofBitVec_unpackSign (x : Float) :
    Sign.ofBitVec (@unpackSign Format.binary64 x.toBits.toBitVec)
      = if signBit x then .negative else .positive := by
  have hs : (@unpackSign Format.binary64 x.toBits.toBitVec).toNat
      = x.toBits.toNat / signPlace := by
    have hx := x.toBits.toNat_lt
    delta unpackSign
    simp [Nat.shiftRight_eq_div_pow, signPlace]
    omega
  have hzero : (0#1).toNat = 0 := rfl
  rw [Sign.ofBitVec, signBit, ← ite_not]
  refine if_congr ?_ rfl rfl
  rw [← BitVec.toNat_inj, hs, hzero, decide_eq_true_iff, Nat.div_eq_zero_iff]
  simp [signPlace]

theorem finite_congr {s s' : Sign} {m m' : Nat} {e e' : Int} (hs : s = s') (hm : m = m')
    (he : e = e') (h : 0 < m) : ∃ h', UnpackedFloat.finite s m e h = .finite s' m' e' h' := by
  subst hs hm he
  exact ⟨h, rfl⟩

/-- The implicit bit of a mantissa stands in front of the others. -/
theorem toNat_implicit_append (m : BitVec 52) : (1#1 ++ m).toNat = binadeSize + m.toNat := by
  rw [BitVec.toNat_append, ← Nat.shiftLeft_add_eq_or_of_lt m.isLt]
  rfl

theorem unpack_of_isFinite {x : Float} (h : x.isFinite = true) :
    (ofFloat x = 0 ∧ x.toModel.unpack = .zero (if signBit x then .negative else .positive)) ∨
      ∃ hm, x.toModel.unpack = .finite (if signBit x then .negative else .positive)
        (significand (ofFloat x)) (exponent (ofFloat x)) hm := by
  have hdiv := ofFloat_div_binadeSize x
  have hmod := ofFloat_mod_binadeSize x
  have hsign := ofBitVec_unpackSign x
  show (_ ∧ UnpackedFloat.unpack Format.binary64 x.toBits.toBitVec = .zero _) ∨
      ∃ hm, UnpackedFloat.unpack Format.binary64 x.toBits.toBitVec = .finite _ _ _ hm
  delta UnpackedFloat.unpack
  dsimp only
  rw [if_neg ((isFinite_iff_unpackExponent x).1 h)]
  by_cases hlt : ofFloat x < binadeSize
  · rw [if_pos ((ofFloat_lt_binadeSize_iff x).1 hlt)]
    rw [Nat.mod_eq_of_lt hlt] at hmod
    rw [Nat.div_eq_of_lt hlt] at hdiv
    by_cases h0 : @unpackMantissa Format.binary64 x.toBits.toBitVec = 0#_
    · rw [dif_pos h0]
      exact .inl ⟨by rw [hmod, h0]; rfl, congrArg _ hsign⟩
    · rw [dif_neg h0]
      refine .inr (finite_congr hsign ?_ ?_ _)
      · rw [significand, if_pos hlt, hmod]
      · rw [exponent, if_pos hlt, ← hdiv]
        rfl
  · rw [if_neg (mt (ofFloat_lt_binadeSize_iff x).2 hlt)]
    refine .inr (finite_congr hsign ?_ ?_ _)
    · rw [significand, if_neg hlt, hmod]
      exact toNat_implicit_append _
    · rw [exponent, if_neg hlt, ← hdiv]
      rfl

/-! ### The number that a double stands for -/

/-- The exact value of a finite double; infinities and the NaN have none, which is told as zero. -/
def exactValue (x : Float) : ℚ :=
  match x.toModel.unpack with
  | .finite .positive m e _ => m * 2 ^ e
  | .finite .negative m e _ => -(m * 2 ^ e)
  | .zero _ | .infinity _ | .notANumber => 0

/-- The mantissa of a finite double, with the bit in front of it that is not written. -/
def mantissa (x : Float) : ℕ :=
  match x.toModel.unpack with
  | .finite _ m _ _ => m
  | .zero _ | .infinity _ | .notANumber => 0

/-- A finite double stands for its magnitude, with its sign. -/
theorem exactValue_of_isFinite {x : Float} (h : x.isFinite = true) :
    exactValue x = if signBit x then -value (ofFloat x) else value (ofFloat x) := by
  rw [exactValue]
  obtain ⟨hzero, hu⟩ | ⟨hm, hu⟩ := unpack_of_isFinite h
  · rw [hu, hzero, value_eq_zero_iff.2 rfl, neg_zero, ite_self]
  · rw [hu]
    cases signBit x <;> rfl

theorem mantissa_of_isFinite {x : Float} (h : x.isFinite = true) :
    mantissa x = significand (ofFloat x) := by
  rw [mantissa]
  obtain ⟨hzero, hu⟩ | ⟨hm, hu⟩ := unpack_of_isFinite h
  · rw [hu, hzero]
    rfl
  · rw [hu]

theorem exactValue_of_unsigned {x : Float} (h : x.isFinite = true) (hs : signBit x = false) :
    exactValue x = value (ofFloat x) := by
  rw [exactValue_of_isFinite h, hs, if_neg Bool.false_ne_true]

/-- Without a sign, the double with the larger index has the larger value. -/
theorem exactValue_lt {x y : Float} (hx : x.isFinite = true) (hxs : signBit x = false)
    (hy : y.isFinite = true) (hys : signBit y = false) (h : ofFloat x < ofFloat y) :
    exactValue x < exactValue y := by
  rw [exactValue_of_unsigned hx hxs, exactValue_of_unsigned hy hys]
  exact value_strictMono h

/-- There is a double for each index of a finite one. -/
theorem exists_ofFloat_eq {n : ℕ} (h : n < count) :
    ∃ x : Float, x.isFinite = true ∧ signBit x = false ∧ ofFloat x = n :=
  ⟨_, isFinite_of_toFloat? (toFloat?_of_lt h), signBit_of_toFloat? (toFloat?_of_lt h),
    ofFloat_of_toFloat? (toFloat?_of_lt h)⟩

/-! ### The nearest double -/

/-- The finite double `x` has no sign and is nearest to `q`, and where another number is as near,
the mantissa of `x` is even. -/
structure IsNearest (q : ℚ) (x : Float) : Prop where
  /-- It is finite. -/
  finite : x.isFinite = true
  /-- Its sign bit is clear. -/
  unsigned : signBit x = false
  /-- No finite double is nearer. -/
  le : ∀ y : Float, y.isFinite = true → |q - exactValue x| ≤ |q - exactValue y|
  /-- Ties go to the even mantissa. -/
  even : ∀ y : Float, y.isFinite = true → exactValue y ≠ exactValue x →
    |q - exactValue y| = |q - exactValue x| → mantissa x % 2 = 0

/-- A magnitude is at least as near to a number without a sign as its negative is. -/
theorem abs_sub_value_le {q : ℚ} (hq : 0 ≤ q) {y : Float} (hy : y.isFinite = true) :
    |q - value (ofFloat y)| ≤ |q - exactValue y| := by
  have hv := value_nonneg (ofFloat y)
  rw [exactValue_of_isFinite hy]
  split_ifs
  · rw [sub_neg_eq_add, abs_of_nonneg (add_nonneg hq hv), abs_le]
    constructor <;> linarith
  · exact le_rfl

/-- The negative of the closest magnitude is never as near as the magnitude itself, unless both are
zero. -/
theorem exactValue_eq_of_tie {q : ℚ} (hq : 0 ≤ q) {y : Float} (hn : IsClosest q (ofFloat y))
    (hy : y.isFinite = true) (htie : |q - exactValue y| = |q - value (ofFloat y)|) :
    exactValue y = value (ofFloat y) := by
  have hv := value_nonneg (ofFloat y)
  rw [exactValue_of_isFinite hy] at htie ⊢
  split_ifs at htie ⊢
  · have hzero := hn.le 0
    rw [← htie, value_eq_zero_iff.2 rfl, sub_neg_eq_add, abs_of_nonneg (add_nonneg hq hv), sub_zero,
      abs_of_nonneg hq] at hzero
    linarith
  · rfl

/-- **The double at the index of the closest magnitude is the nearest double.** -/
theorem isNearest_of_isClosest {q : ℚ} (hq : 0 ≤ q) {n : ℕ} (hn : IsClosest q n) {x : Float}
    (hx : toFloat? n = some x) : IsNearest q x := by
  have hf := isFinite_of_toFloat? hx
  have hs := signBit_of_toFloat? hx
  have hv := exactValue_of_unsigned hf hs
  rw [ofFloat_of_toFloat? hx] at hv
  refine ⟨hf, hs, fun y hy => ?_, fun y hy hne htie => ?_⟩
  · rw [hv]
    exact (hn.le _).trans (abs_sub_value_le hq hy)
  · rw [hv] at hne htie
    rw [mantissa_of_isFinite hf, ofFloat_of_toFloat? hx]
    refine hn.even (ofFloat y) ?_ (le_antisymm (htie ▸ abs_sub_value_le hq hy) (hn.le _))
    rintro rfl
    exact hne (exactValue_eq_of_tie hq hn hy htie)

/-- Of two nearest doubles both have an even mantissa, so there is a third between them, and it is
nearer. -/
theorem IsNearest.not_lt {q : ℚ} {x y : Float} (hx : IsNearest q x) (hy : IsNearest q y) :
    ¬ ofFloat x < ofFloat y := by
  intro hlt
  have htie : |q - exactValue x| = |q - exactValue y| :=
    le_antisymm (hx.le y hy.finite) (hy.le x hx.finite)
  have hv := exactValue_lt hx.finite hx.unsigned hy.finite hy.unsigned hlt
  have hex := hx.even y hy.finite hv.ne' htie.symm
  have hey := hy.even x hx.finite hv.ne htie
  rw [mantissa_of_isFinite hx.finite, significand_even_iff] at hex
  rw [mantissa_of_isFinite hy.finite, significand_even_iff] at hey
  have hlast := (isFinite_iff y).1 hy.finite
  obtain ⟨z, hz, hzs, hzn⟩ := exists_ofFloat_eq (n := ofFloat x + 1) (by omega)
  have hxz := exactValue_lt hx.finite hx.unsigned hz hzs (by omega)
  have hzy := exactValue_lt hz hzs hy.finite hy.unsigned (by omega)
  have hmid : q - exactValue x = -(q - exactValue y) :=
    (abs_eq_abs.1 htie).resolve_left (by intro h; linarith)
  have hnear : |q - exactValue z| < |q - exactValue x| := by
    rw [abs_of_pos (by linarith : 0 < q - exactValue x), abs_lt]
    constructor <;> linarith
  exact absurd (hx.le z hz) (not_le.2 hnear)

/-- **There is at most one nearest double.** -/
theorem IsNearest.eq {q : ℚ} {x y : Float} (hx : IsNearest q x) (hy : IsNearest q y) : x = y := by
  have hxy := hx.not_lt hy
  have hyx := hy.not_lt hx
  exact eq_of_ofFloat_eq (hx.unsigned.trans hy.unsigned.symm) (by omega)

end Formulary.Magnitude
