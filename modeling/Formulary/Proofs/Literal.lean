import Formulary.Proofs.Number.NearestDouble
import Formulary.Proofs.RoundTrip

/-!
# Numerals are read exactly

A numeral has an exact value, digit by digit: in front of the point each further digit makes what
stands before it ten times as large, behind the point it makes what stands after it a tenth
(`exactValue`). A text that is a numeral is either out of range, if its value reaches the middle
between the last double and the next power of two, or it is the nearest double, however many digits
it has (`scan_numeral`).

So a text has the tokens that its value asks for, and zeros in front, zeros at the end of the places
and a point behind the last digit change nothing.
-/

namespace Formulary

open Magnitude (IsClosest IsNearest)

/-- A row of digits with at most one point and at least one digit. -/
structure IsNumeral (run : List Char) : Prop where
  /-- There is nothing but digits and points. -/
  chars : ∀ c ∈ run, c.isDigit = true ∨ c = '.'
  /-- There is no second point. -/
  points : run.count '.' ≤ 1
  /-- There is a digit. -/
  digit : ∃ c ∈ run, c.isDigit = true

namespace Numeral

/-! ### The exact value -/

/-- The number that a digit stands for. -/
def digitValue (c : Char) : ℚ := (c.toNat - '0'.toNat : ℕ)

/-- The value of a row of digits in front of the point. -/
def wholePart (row : List Char) : ℚ := row.foldl (fun q c => 10 * q + digitValue c) 0

/-- The value of a row of digits behind the point. -/
def fraction (row : List Char) : ℚ := row.foldr (fun c q => (digitValue c + q) / 10) 0

/-- The exact value of a row of digits with at most one point. -/
def exactValue (run : List Char) : ℚ :=
  wholePart (run.takeWhile (· != '.')) + fraction (run.dropWhile (· != '.')).tail

@[simp] theorem fraction_nil : fraction [] = 0 := rfl

theorem fraction_cons (c : Char) (row : List Char) :
    fraction (c :: row) = (digitValue c + fraction row) / 10 := rfl

theorem bne_point_of_not_mem {row : List Char} (h : '.' ∉ row) :
    ∀ c ∈ row, (c != '.') = true :=
  fun _ hc => bne_iff_ne.2 (ne_of_mem_of_not_mem hc h)

theorem exactValue_point {row : List Char} (h : '.' ∉ row) (row' : List Char) :
    exactValue (row ++ '.' :: row') = wholePart row + fraction row' := by
  have hrow := bne_point_of_not_mem h
  rw [exactValue, List.takeWhile_append_of_pos hrow, List.dropWhile_append_of_pos hrow]
  simp

theorem exactValue_whole {row : List Char} (h : '.' ∉ row) : exactValue row = wholePart row := by
  have hrow := bne_point_of_not_mem h
  rw [exactValue, ← List.append_nil row, List.takeWhile_append_of_pos hrow,
    List.dropWhile_append_of_pos hrow]
  simp

theorem wholePart_eq (row : List Char) : wholePart row = Nat.ofDigitChars 10 row 0 := by
  rw [wholePart, ← Nat.cast_zero, Nat.ofDigitChars]
  refine List.foldl_hom _ fun n c => ?_
  rw [digitValue]
  push_cast
  ring

/-- Digits behind a number, read as a whole number, are as many tenths as there are digits. -/
theorem ofDigitChars_eq (row : List Char) (n : ℕ) :
    (Nat.ofDigitChars 10 row n : ℚ) = (n + fraction row) * 10 ^ row.length := by
  induction row generalizing n with
  | nil => simp
  | cons c row ih =>
    rw [Nat.ofDigitChars_cons, ih, fraction_cons, List.length_cons, pow_succ, digitValue]
    push_cast
    ring

theorem ofDigitChars_append_eq (row row' : List Char) :
    (Nat.ofDigitChars 10 (row ++ row') 0 : ℚ)
      = (wholePart row + fraction row') * 10 ^ row'.length := by
  rw [Nat.ofDigitChars_append, ofDigitChars_eq, wholePart_eq]

theorem wholePart_zeros_append (n : ℕ) (row : List Char) :
    wholePart (List.replicate n '0' ++ row) = wholePart row := by
  rw [wholePart_eq, wholePart_eq, Nat.ofDigitChars_append, Nat.ofDigitChars_replicate_zero,
    Nat.mul_zero]

theorem fraction_append_zeros (row : List Char) (n : ℕ) :
    fraction (row ++ List.replicate n '0') = fraction row := by
  have hzeros : fraction (List.replicate n '0') = 0 := by
    induction n with
    | zero => rfl
    | succ n ih =>
      rw [List.replicate_succ, fraction_cons, ih]
      simp [digitValue]
  rw [fraction, List.foldr_append]
  exact congrArg (fun q => List.foldr _ q row) hzeros

end Numeral

namespace IsNumeral

open Numeral

variable {run : List Char}

/-! ### Numerals as rows of digits -/

/-- A numeral is a row of digits, perhaps with a point in it. -/
theorem exists_rows (h : IsNumeral run) :
    (∀ c ∈ run, c.isDigit = true) ∧ run ≠ [] ∨
      ∃ row row', run = row ++ '.' :: row' ∧ (∀ c ∈ row, c.isDigit = true) ∧
        (∀ c ∈ row', c.isDigit = true) ∧ row ++ row' ≠ [] := by
  by_cases hp : '.' ∈ run
  · right
    obtain ⟨row, row', rfl, hrow⟩ := List.eq_append_cons_of_mem hp
    have hpoints := h.points
    rw [List.count_append, List.count_cons_self, List.count_eq_zero.2 hrow] at hpoints
    have hrow' : '.' ∉ row' := List.count_eq_zero.1 (by omega)
    refine ⟨row, row', rfl, fun c hc => ?_, fun c hc => ?_, ?_⟩
    · exact (h.chars c (by simp [hc])).resolve_right (ne_of_mem_of_not_mem hc hrow)
    · exact (h.chars c (by simp [hc])).resolve_right (ne_of_mem_of_not_mem hc hrow')
    · obtain ⟨c, hc, hd⟩ := h.digit
      have hne : c ≠ '.' := by
        rintro rfl
        exact absurd hd (by decide)
      refine List.ne_nil_of_mem (a := c) ?_
      simpa [hne] using hc
  · left
    refine ⟨fun c hc => (h.chars c hc).resolve_right (ne_of_mem_of_not_mem hc hp), ?_⟩
    obtain ⟨c, hc, -⟩ := h.digit
    exact List.ne_nil_of_mem hc

theorem point_not_mem {row : List Char} (h : ∀ c ∈ row, c.isDigit = true) : '.' ∉ row :=
  List.count_eq_zero.1 (count_point_digits h)

/-- What is rounded is the exact value of the numeral. -/
theorem exists_decimal? (h : IsNumeral run) :
    ∃ d, decimal? run = some d ∧ (d.num : ℚ) / d.den = exactValue run := by
  obtain ⟨hrun, hne⟩ | ⟨row, row', rfl, hrow, hrow', hne⟩ := h.exists_rows
  · refine ⟨_, decimal?_digits hrun hne, ?_⟩
    rw [exactValue_whole (point_not_mem hrun), wholePart_eq]
    simp [Decimal.num, Decimal.den]
  · refine ⟨_, decimal?_point hrow hrow' hne, ?_⟩
    have hten : (tenTo row'.length : ℚ) = 10 ^ row'.length := Nat.cast_pow 10 _
    have hpos : (10 : ℚ) ^ row'.length ≠ 0 := by positivity
    rw [exactValue_point (point_not_mem hrow), Decimal.num, Decimal.den]
    simp only [neg_neg, Int.toNat_natCast, Int.toNat_neg_natCast, tenTo_zero, Nat.mul_one, hten,
      ofDigitChars_append_eq]
    exact mul_div_cancel_right₀ _ hpos

theorem isNumeralChar (h : IsNumeral run) : ∀ c ∈ run, isNumeralChar c = true := by
  intro c hc
  rcases h.chars c hc with hd | rfl
  · exact isNumeralChar_of_isDigit hd
  · rfl

theorem ne_nil (h : IsNumeral run) : run ≠ [] := by
  obtain ⟨c, hc, -⟩ := h.digit
  exact List.ne_nil_of_mem hc

/-! ### Numerals of the same value -/

/-- Zeros in front of a numeral. -/
theorem zeros_append (h : IsNumeral run) (n : ℕ) : IsNumeral (List.replicate n '0' ++ run) where
  chars c hc := by
    rcases List.mem_append.1 hc with hc | hc
    · exact .inl (Decimal.isDigit_replicate_zero n c hc)
    · exact h.chars c hc
  points := by
    rw [List.count_append, count_point_digits (Decimal.isDigit_replicate_zero n), Nat.zero_add]
    exact h.points
  digit := h.digit.imp fun _ hc => ⟨List.mem_append_right _ hc.1, hc.2⟩

/-- Zeros behind a numeral. -/
theorem append_zeros (h : IsNumeral run) (n : ℕ) : IsNumeral (run ++ List.replicate n '0') where
  chars c hc := by
    rcases List.mem_append.1 hc with hc | hc
    · exact h.chars c hc
    · exact .inl (Decimal.isDigit_replicate_zero n c hc)
  points := by
    rw [List.count_append, count_point_digits (Decimal.isDigit_replicate_zero n)]
    exact h.points
  digit := h.digit.imp fun _ hc => ⟨List.mem_append_left _ hc.1, hc.2⟩

/-- A point behind a whole numeral. -/
theorem append_point (h : IsNumeral run) (hp : '.' ∉ run) : IsNumeral (run ++ ['.']) where
  chars c hc := by
    rcases List.mem_append.1 hc with hc | hc
    · exact h.chars c hc
    · exact .inr (List.mem_singleton.1 hc)
  points := by
    rw [List.count_append, List.count_eq_zero.2 hp, List.count_singleton_self]
  digit := h.digit.imp fun _ hc => ⟨List.mem_append_left _ hc.1, hc.2⟩

end IsNumeral

namespace Numeral

/-- Zeros in front do not change the value. -/
theorem exactValue_zeros_append (n : ℕ) (run : List Char) :
    exactValue (List.replicate n '0' ++ run) = exactValue run := by
  have hzeros := bne_point_of_not_mem
    (IsNumeral.point_not_mem (Decimal.isDigit_replicate_zero n))
  rw [exactValue, exactValue, List.takeWhile_append_of_pos hzeros,
    List.dropWhile_append_of_pos hzeros, wholePart_zeros_append]

/-- Zeros at the end of the places do not change the value. -/
theorem exactValue_append_zeros {run : List Char} (h : '.' ∈ run) (n : ℕ) :
    exactValue (run ++ List.replicate n '0') = exactValue run := by
  obtain ⟨row, row', rfl, hrow⟩ := List.eq_append_cons_of_mem h
  rw [List.append_assoc, List.cons_append, exactValue_point hrow, exactValue_point hrow,
    fraction_append_zeros]

/-- A point at the end does not change the value. -/
theorem exactValue_append_point {run : List Char} (h : '.' ∉ run) :
    exactValue (run ++ ['.']) = exactValue run := by
  rw [exactValue_point h, fraction_nil, add_zero, exactValue_whole h]

end Numeral

namespace Token

/-! ### The scan of a numeral -/

variable {run : List Char}

/-- A text of digits and points is one run. -/
theorem scan_eq_ofNumeral (h : ∀ c ∈ run, isNumeralChar c = true) (hne : run ≠ []) :
    scan (.ofList run) = (ofNumeral run).map ([·]) := by
  rw [scan, String.toList_ofList, Scanner.start, Scanner.feed_whole_numeral h hne]
  show (Scanner.endRun _ [] .none).map _ = _
  rw [Scanner.endRun, Scanner.Run.tokens, List.reverse_reverse]
  cases ofNumeral run <;> rfl

/-- A numeral is the double at the index of the magnitude closest to its value, if there is one. -/
theorem exists_isClosest (h : IsNumeral run) :
    ∃ n, 0 ≤ Numeral.exactValue run ∧ IsClosest (Numeral.exactValue run) n ∧
      scan (.ofList run) = match Magnitude.toFloat? n with
        | some x => .ok [.number x]
        | none => .error (.malformed (.outOfRange (.ofList run))) := by
  obtain ⟨d, hd, hq⟩ := h.exists_decimal?
  refine ⟨d.nearest, ?_, ?_, ?_⟩
  · rw [← hq]
    exact div_nonneg (Nat.cast_nonneg _) (Nat.cast_nonneg _)
  · rw [← hq]
    exact Magnitude.isClosest_nearest d.num d.den_pos
  · rw [scan_eq_ofNumeral h.isNumeralChar h.ne_nil, ofNumeral, hd]
    dsimp only
    rw [Decimal.toFloat?]
    cases Magnitude.toFloat? d.nearest <;> rfl

theorem scan_eq_error_iff (h : IsNumeral run) :
    scan (.ofList run) = .error (.malformed (.outOfRange (.ofList run))) ↔
      2 ^ 1024 - 2 ^ 970 ≤ Numeral.exactValue run := by
  obtain ⟨n, -, hn, hs⟩ := exists_isClosest h
  rw [hs, ← hn.count_le_iff, ← Magnitude.toFloat?_eq_none_iff]
  cases Magnitude.toFloat? n <;> simp

theorem scan_eq_ok_iff (h : IsNumeral run) (ts : List Token) :
    scan (.ofList run) = .ok ts ↔ Numeral.exactValue run < 2 ^ 1024 - 2 ^ 970 ∧
      ∃ x, ts = [.number x] ∧ IsNearest (Numeral.exactValue run) x := by
  obtain ⟨n, hq, hn, hs⟩ := exists_isClosest h
  rw [hs, ← not_le, ← hn.count_le_iff, ← Magnitude.toFloat?_eq_none_iff]
  cases hx : Magnitude.toFloat? n with
  | none => simp
  | some x =>
    have hnear := Magnitude.isNearest_of_isClosest hq hn hx
    constructor
    · intro hts
      exact ⟨Option.some_ne_none x, x, (Except.ok.inj hts).symm, hnear⟩
    · rintro ⟨-, y, rfl, hy⟩
      rw [hnear.eq hy]

/-- A numeral in range has a nearest double. -/
theorem exists_isNearest (h : IsNumeral run)
    (hlt : Numeral.exactValue run < 2 ^ 1024 - 2 ^ 970) :
    ∃ x, IsNearest (Numeral.exactValue run) x := by
  obtain ⟨n, hq, hn, -⟩ := exists_isClosest h
  rw [← not_le, ← hn.count_le_iff, not_le] at hlt
  exact ⟨_, Magnitude.isNearest_of_isClosest hq hn (Magnitude.toFloat?_of_lt hlt)⟩

/-- Numerals of the same value have the same tokens. -/
theorem scan_congr {run' : List Char} (h : IsNumeral run) (h' : IsNumeral run')
    (hq : Numeral.exactValue run' = Numeral.exactValue run) (ts : List Token) :
    scan (.ofList run') = .ok ts ↔ scan (.ofList run) = .ok ts := by
  rw [scan_eq_ok_iff h, scan_eq_ok_iff h', hq]

/-- **Numerals are read exactly**, of any length. A numeral is out of range if its value is not less
than the middle between the last double and the next power of two. Otherwise it is a single number:
the double nearest to its value, of two equally near ones the one with an even mantissa, without a
sign. So the tokens depend on the value alone, and zeros in front, of a point as well, zeros at the
end of the places, and a point behind the last digit do not change them. -/
theorem scan_numeral (h : IsNumeral run) :
    (scan (.ofList run) = .error (.malformed (.outOfRange (.ofList run))) ↔
      2 ^ 1024 - 2 ^ 970 ≤ Numeral.exactValue run) ∧
    (Malformation.outOfRange (.ofList run)).message
      = "number '" ++ .ofList run ++ "' is out of range" ∧
    (Numeral.exactValue run < 2 ^ 1024 - 2 ^ 970 →
      ∃ x, scan (.ofList run) = .ok [.number x] ∧ IsNearest (Numeral.exactValue run) x ∧
        ∀ y, IsNearest (Numeral.exactValue run) y → y = x) ∧
    (∀ run', IsNumeral run' → Numeral.exactValue run' = Numeral.exactValue run →
      ∀ ts, scan (.ofList run') = .ok ts ↔ scan (.ofList run) = .ok ts) ∧
    (∀ n ts, scan (.ofList (.replicate n '0' ++ run)) = .ok ts ↔ scan (.ofList run) = .ok ts) ∧
    ('.' ∈ run → ∀ n ts,
      scan (.ofList (run ++ .replicate n '0')) = .ok ts ↔ scan (.ofList run) = .ok ts) ∧
    ('.' ∉ run → ∀ ts,
      scan (.ofList (run ++ ['.'])) = .ok ts ↔ scan (.ofList run) = .ok ts) := by
  refine ⟨scan_eq_error_iff h, rfl, fun hq => ?_, fun run' h' hq => scan_congr h h' hq,
    fun n => scan_congr h (h.zeros_append n) (Numeral.exactValue_zeros_append n run),
    fun hp n => scan_congr h (h.append_zeros n) (Numeral.exactValue_append_zeros hp n),
    fun hp => scan_congr h (h.append_point hp) (Numeral.exactValue_append_point hp)⟩
  obtain ⟨x, hx⟩ := exists_isNearest h hq
  exact ⟨x, (scan_eq_ok_iff h _).2 ⟨hq, x, rfl, hx⟩, hx, fun y hy => hy.eq hx⟩

/-- The whole number behind two to the power 53 is halfway between two doubles, and the lower one
has the even mantissa. -/
theorem scan_numeral_tie :
    IsNumeral "9007199254740993".toList ∧
    scan "9007199254740993" = .ok [.number 9007199254740992.0] ∧
    IsNearest 9007199254740993 9007199254740992.0 := by
  have hdigits : "9007199254740993".toList.all Char.isDigit = true := by decide +kernel
  have h : IsNumeral "9007199254740993".toList :=
    ⟨fun c hc => .inl (List.all_eq_true.1 hdigits c hc), by decide +kernel,
      '9', by decide +kernel, by decide⟩
  have hq : Numeral.exactValue "9007199254740993".toList = 9007199254740993 := by decide +kernel
  have hs : scan "9007199254740993" = .ok [.number 9007199254740992.0] := by decide +kernel
  obtain ⟨herror, -, hok, -⟩ := scan_numeral h
  rw [hq, String.ofList_toList, hs] at herror hok
  obtain ⟨x, hx, hnear, -⟩ := hok (not_le.1 (mt herror.2 (by simp)))
  obtain rfl : x = 9007199254740992.0 := by
    simpa using hx.symm
  exact ⟨h, hs, hnear⟩

end Token

end Formulary
