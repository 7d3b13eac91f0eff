import Formulary.Number.Magnitude

/-!
# Finite doubles

A double is finite exactly if its magnitude is one of those that are counted. Such a double is
given back by its index, but for the sign, and compares equal to itself. Just past the counted
magnitudes stands infinity, and beyond it the one NaN (`isNaN_iff`), so every double is its sign and
its magnitude (`eq_of_ofFloat_eq`).
-/

namespace Formulary.Magnitude

open Float.Model Float.Model.UnpackedFloat

/-- A double is finite if the bits of its exponent are not all set. -/
theorem isFinite_iff_unpackExponent (x : Float) :
    x.isFinite = true ↔ @unpackExponent Format.binary64 x.toBits.toBitVec ≠ -1#_ := by
  show UnpackedFloat.isFinite
    (ite (@unpackExponent Format.binary64 x.toBits.toBitVec = -1#_) _ _) = true ↔ _
  by_cases h : @unpackExponent Format.binary64 x.toBits.toBitVec = -1#_
  · rw [if_pos h, apply_ite UnpackedFloat.isFinite]
    show ite _ false false = true ↔ _
    rw [ite_self]
    exact ⟨fun hf => absurd hf Bool.false_ne_true, fun hne => absurd h hne⟩
  · rw [if_neg h, apply_ite UnpackedFloat.isFinite, apply_dite UnpackedFloat.isFinite]
    show ite _ (dite _ (fun _ => true) fun _ => true) true = true ↔ _
    rw [dite_eq_ite, ite_self, ite_self]
    exact ⟨fun _ => h, fun _ => rfl⟩

theorem toNat_unpackExponent (x : Float) :
    (@unpackExponent Format.binary64 x.toBits.toBitVec).toNat
      = x.toBits.toNat / binadeSize % 2048 := by
  simp [unpackExponent, Nat.shiftRight_eq_div_pow, binadeSize]

/-- **The finite doubles are those with a counted magnitude.** -/
theorem isFinite_iff (x : Float) : x.isFinite = true ↔ ofFloat x < count := by
  have hmax : (-1#11).toNat = 2047 := rfl
  rw [isFinite_iff_unpackExponent, ne_eq, ← BitVec.toNat_inj, toNat_unpackExponent]
  show ¬ _ = (-1#11).toNat ↔ _
  rw [hmax, ofFloat]
  simp only [count, binadeSize, signPlace]
  omega

/-- A finite double is a number. -/
theorem isNaN_of_isFinite {x : Float} (h : x.isFinite = true) : x.isNaN = false := by
  have h' : UnpackedFloat.isFinite x.toModel.unpack = true := h
  show UnpackedFloat.isNaN x.toModel.unpack = false
  cases hu : x.toModel.unpack with
  | notANumber => rw [hu] at h'; cases h'
  | infinity | zero | finite => rfl

theorem ofModel_congr {b b' : UInt64} (h : b = b') (hb : Format.binary64.Valid b.toBitVec)
    (hb' : Format.binary64.Valid b'.toBitVec) : Float.ofModel ⟨b, hb⟩ = .ofModel ⟨b', hb'⟩ := by
  subst h
  rfl

/-- A finite double without a sign is the one at its index. -/
theorem toFloat?_ofFloat {x : Float} (hf : x.isFinite = true) (hs : signBit x = false) :
    toFloat? (ofFloat x) = some x := by
  have hx : x.toBits.toNat < signPlace := by
    simpa [signBit] using hs
  rw [toFloat?_of_lt ((isFinite_iff x).1 hf), Option.some.injEq]
  obtain ⟨bits, hbits⟩ := x
  have hmod : bits.toNat % signPlace = bits.toNat := Nat.mod_eq_of_lt hx
  refine ofModel_congr ?_ _ hbits
  show UInt64.ofNat (bits.toNat % signPlace) = bits
  rw [hmod, UInt64.ofNat_toNat]

/-- What stands at an index is a finite double. -/
theorem isFinite_of_toFloat? {n : Nat} {x : Float} (h : toFloat? n = some x) :
    x.isFinite = true := by
  rw [isFinite_iff, ofFloat_of_toFloat? h]
  exact lt_count_of_toFloat? h

/-- A finite double equals itself. -/
theorem beq_self_of_isFinite {x : Float} (h : x.isFinite = true) : (x == x) = true := by
  have h' : UnpackedFloat.isFinite x.toModel.unpack = true := h
  show (UnpackedFloat.compare x.toModel.unpack x.toModel.unpack == some .eq) = true
  cases hu : x.toModel.unpack with
  | notANumber => rw [hu] at h'; cases h'
  | infinity s => rw [hu] at h'; cases h'
  | zero s => rfl
  | finite s m e hm =>
    have he : compare e e = .eq := Std.ReflCmp.compare_self
    have hm' : compare m m = .eq := Std.ReflCmp.compare_self
    cases s with
    | positive =>
      show (some ((compare e e).then (compare m m)) == some .eq) = true
      rw [he, hm']
      rfl
    | negative =>
      show (some ((compare e e).then (compare m m)).swap == some .eq) = true
      rw [he, hm']
      rfl

/-! ### NaNs and infinities -/

theorem toNat_unpackMantissa (x : Float) :
    (@unpackMantissa Format.binary64 x.toBits.toBitVec).toNat = x.toBits.toNat % binadeSize := by
  simp [unpackMantissa, binadeSize]

/-- A double is a NaN if the bits of its exponent are all set, and some of its mantissa. -/
theorem isNaN_iff_unpack (x : Float) :
    x.isNaN = true ↔ @unpackExponent Format.binary64 x.toBits.toBitVec = -1#_ ∧
      @unpackMantissa Format.binary64 x.toBits.toBitVec ≠ 0#_ := by
  show UnpackedFloat.isNaN
    (ite (@unpackExponent Format.binary64 x.toBits.toBitVec = -1#_)
      (ite (@unpackMantissa Format.binary64 x.toBits.toBitVec = 0#_) _ _) _) = true ↔ _
  by_cases h : @unpackExponent Format.binary64 x.toBits.toBitVec = -1#_
  · rw [if_pos h, apply_ite UnpackedFloat.isNaN]
    show ite _ false true = true ↔ _
    by_cases h0 : @unpackMantissa Format.binary64 x.toBits.toBitVec = 0#_
    · simp [h0]
    · simp [h0, h]
  · rw [if_neg h, apply_ite UnpackedFloat.isNaN, apply_dite UnpackedFloat.isNaN]
    show ite _ (dite _ (fun _ => false) fun _ => false) false = true ↔ _
    rw [dite_eq_ite, ite_self, ite_self]
    exact ⟨fun hf => absurd hf Bool.false_ne_true, fun hn => absurd hn.1 h⟩

/-- A NaN is what lies beyond infinity. -/
theorem isNaN_iff (x : Float) : x.isNaN = true ↔ count < ofFloat x := by
  have hmax : (-1#11).toNat = 2047 := rfl
  have hzero : (0#52).toNat = 0 := rfl
  rw [isNaN_iff_unpack, ne_eq, ← BitVec.toNat_inj, ← BitVec.toNat_inj, toNat_unpackExponent,
    toNat_unpackMantissa]
  show _ = (-1#11).toNat ∧ ¬ _ = (0#52).toNat ↔ _
  rw [hmax, hzero, ofFloat]
  simp only [count, binadeSize, signPlace]
  omega

theorem ofFloat_le_count {x : Float} (h : x.isNaN = false) : ofFloat x ≤ count := by
  rw [← Nat.not_lt, ← isNaN_iff, h]
  exact Bool.false_ne_true

/-- There is one NaN. -/
theorem eq_of_isNaN {x y : Float} (hx : x.isNaN = true) (hy : y.isNaN = true) : x = y := by
  obtain ⟨⟨b, hb⟩⟩ := x
  obtain ⟨⟨b', hb'⟩⟩ := y
  have h := hb.eq_packedNaN ((isNaN_iff_unpack _).1 hx).1 ((isNaN_iff_unpack _).1 hx).2
  have h' := hb'.eq_packedNaN ((isNaN_iff_unpack _).1 hy).1 ((isNaN_iff_unpack _).1 hy).2
  exact ofModel_congr (UInt64.toBitVec_inj.1 (h.trans h'.symm)) hb hb'

theorem eq_of_toBits_eq {x y : Float} (h : x.toBits = y.toBits) : x = y := by
  obtain ⟨⟨b, hb⟩⟩ := x
  obtain ⟨⟨b', hb'⟩⟩ := y
  exact ofModel_congr h hb hb'

/-- A double is its sign and its magnitude. -/
theorem eq_of_ofFloat_eq {x y : Float} (hs : signBit x = signBit y) (h : ofFloat x = ofFloat y) :
    x = y := by
  have hx := x.toBits.toNat_lt
  have hy := y.toBits.toNat_lt
  rw [signBit, signBit, decide_eq_decide] at hs
  refine eq_of_toBits_eq (UInt64.toNat_inj.1 ?_)
  simp only [ofFloat, signPlace] at h hs
  omega

end Formulary.Magnitude
