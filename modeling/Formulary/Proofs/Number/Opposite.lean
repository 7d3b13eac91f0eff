import Formulary.Proofs.Number.NearestDouble

/-!
# The opposite of a double

A sign and the index of a magnitude are packed into the sign bit and the bits below it
(`toNat_pack_finite`). The opposite of a finite double is packed from the same magnitude and the
other sign, so its bits are those of the magnitude with the other sign bit (`toNat_toBits_neg`). It
is finite and stands for the opposite number, and that holds of the zeros as well.
-/

namespace Formulary.Magnitude

open Float.Model Float.Model.UnpackedFloat

/-- The parts of a double stand in front of each other, the sign first. -/
theorem toNat_packComponents (s : Sign) (e : BitVec 11) (m : BitVec 52) :
    (packComponents Format.binary64 s e m).toNat
      = s.toBitVec.toNat * signPlace + e.toNat * binadeSize + m.toNat := by
  show (s.toBitVec ++ e ++ m).toNat = _
  rw [BitVec.toNat_append, BitVec.toNat_append, ← Nat.shiftLeft_add_eq_or_of_lt m.isLt,
    ← Nat.shiftLeft_add_eq_or_of_lt e.isLt, Nat.shiftLeft_eq, Nat.shiftLeft_eq, signPlace,
    binadeSize]
  omega

theorem toNat_pack_zero (s : Sign) :
    (UnpackedFloat.pack Format.binary64 (.zero s)).toNat = s.toBitVec.toNat * signPlace := by
  cases s <;> rfl

/-- The exponent of a magnitude as it is packed, from the binade with an implicit bit on. -/
theorem toNat_exponent_add {n : ℕ} (h : ¬ n < binadeSize) :
    (exponent n + (1023 : ℕ) + (52 : ℕ)).toNat = n / binadeSize := by
  rw [exponent, if_neg h]
  generalize n / binadeSize = q
  omega

theorem log2_significand {n : ℕ} (h : ¬ n < binadeSize) : (significand n).log2 = 52 := by
  have hsig : significand n = binadeSize + n % binadeSize := if_neg h
  have hmod : n % binadeSize < binadeSize := Nat.mod_lt _ (by decide)
  have hpos : 0 < binadeSize := by decide
  rw [hsig, Nat.log2_eq_iff (by omega)]
  exact ⟨Nat.le_add_right _ _, (Nat.add_lt_add_left hmod _).trans_eq (by rfl)⟩

theorem pack_finite (s : Sign) {m : ℕ} (e : ℤ) (hm : 0 < m) :
    UnpackedFloat.pack Format.binary64 (.finite s m e hm) =
      if 2048 ≤ (e + (1023 : ℕ) + (52 : ℕ)).toNat + 1 then packedInfinity Format.binary64 s
      else if m.log2 + 1 = 53 then
        packComponents Format.binary64 s (.ofNat 11 (e + (1023 : ℕ) + (52 : ℕ)).toNat) (.ofNat 52 m)
      else packComponents Format.binary64 s 0#11 (.ofNat 52 m) := rfl

/-- **A finite double is packed into its sign bit and its index.** -/
theorem toNat_pack_finite (s : Sign) {n : ℕ} (hn : n < count) (hm : 0 < significand n) :
    (UnpackedFloat.pack Format.binary64 (.finite s (significand n) (exponent n) hm)).toNat
      = s.toBitVec.toNat * signPlace + n := by
  rw [pack_finite]
  by_cases hlt : n < binadeSize
  · -- the first magnitudes have no implicit bit
    have hexp : exponent n = -1074 := if_pos hlt
    have hsig : significand n = n := if_pos hlt
    have hlog : (significand n).log2 < 52 := (Nat.log2_lt hm.ne').2 (hsig.trans_lt hlt)
    have hmantissa : (BitVec.ofNat 52 (significand n)).toNat = n := by
      rw [hsig, BitVec.toNat_ofNat]
      exact Nat.mod_eq_of_lt hlt
    rw [hexp, if_neg (by decide), if_neg (by omega), toNat_packComponents, hmantissa,
      show (0#11).toNat = 0 from rfl, Nat.zero_mul, Nat.add_zero]
  · have hdiv : n / binadeSize < 2047 := Nat.div_lt_of_lt_mul (by rwa [Nat.mul_comm])
    have hexponent : (BitVec.ofNat 11 (n / binadeSize)).toNat = n / binadeSize := by
      rw [BitVec.toNat_ofNat]
      exact Nat.mod_eq_of_lt (hdiv.trans (by decide))
    have hmantissa : (BitVec.ofNat 52 (significand n)).toNat = n % binadeSize := by
      rw [significand, if_neg hlt, BitVec.toNat_ofNat]
      exact (Nat.add_mod_left ..).trans (Nat.mod_mod ..)
    rw [toNat_exponent_add hlt, if_neg (Nat.not_le.2 (Nat.succ_lt_succ hdiv)),
      if_pos (by rw [log2_significand hlt]), toNat_packComponents, hexponent, hmantissa,
      Nat.add_assoc, Nat.mul_comm (n / binadeSize), Nat.div_add_mod]

/-- The opposite sign has the other bit. -/
theorem toNat_toBitVec_neg (b : Bool) :
    (-(if b then Sign.negative else .positive)).toBitVec.toNat = if b then 0 else 1 := by
  cases b <;> rfl

/-- **The bits of the opposite** are those of the magnitude and the other sign bit. -/
theorem toNat_toBits_neg {x : Float} (h : x.isFinite = true) :
    (-x).toBits.toNat = (if signBit x then 0 else 1) * signPlace + ofFloat x := by
  show (UnpackedFloat.pack Format.binary64 x.toModel.unpack.neg).toNat = _
  rw [← toNat_toBitVec_neg]
  obtain ⟨hzero, hu⟩ | ⟨hm, hu⟩ := unpack_of_isFinite h
  · rw [hu, hzero, Nat.add_zero]
    exact toNat_pack_zero _
  · rw [hu]
    exact toNat_pack_finite _ ((isFinite_iff x).1 h) hm

theorem ofFloat_neg {x : Float} (h : x.isFinite = true) : ofFloat (-x) = ofFloat x := by
  have hlt : ofFloat x < signPlace := Nat.mod_lt _ (by decide)
  rw [ofFloat, toNat_toBits_neg h, Nat.mul_add_mod_of_lt hlt]

theorem signBit_neg {x : Float} (h : x.isFinite = true) : signBit (-x) = !signBit x := by
  have hlt : ofFloat x < signPlace := Nat.mod_lt _ (by decide)
  rw [signBit, toNat_toBits_neg h]
  cases signBit x
  · simp
  · simpa using hlt

theorem isFinite_neg {x : Float} (h : x.isFinite = true) : (-x).isFinite = true := by
  rw [isFinite_iff, ofFloat_neg h]
  exact (isFinite_iff x).1 h

/-- The opposite of a finite double stands for the opposite number. -/
theorem exactValue_neg {x : Float} (h : x.isFinite = true) : exactValue (-x) = -exactValue x := by
  rw [exactValue_of_isFinite h, exactValue_of_isFinite (isFinite_neg h), ofFloat_neg h,
    signBit_neg h]
  cases signBit x
  · rfl
  · exact (neg_neg _).symm

end Formulary.Magnitude
