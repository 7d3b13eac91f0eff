import Formulary.Number.Layout
import Formulary.Number.Numeral
import Formulary.Proofs.Number.Double
import Formulary.Proofs.Number.Nearest

/-!
# Numerals that read back

A decimal written in full is a numeral of the same value (`decimal?_positional`), and the plain
layout writes a finite double without a sign as a decimal that is nearest to it. So such a double
is read back from its text (`toFloat?_chars`).
-/

namespace Formulary

theorem isNumeralChar_of_isDigit {c : Char} (h : c.isDigit = true) : isNumeralChar c = true := by
  rw [isNumeralChar, h, Bool.true_or]

namespace Numeral

/-! ### Rows of digits -/

theorem ne_point_of_isDigit {c : Char} (h : c.isDigit = true) : (c != '.') = true := by
  rw [bne_iff_ne]
  rintro rfl
  exact absurd h (by decide)

theorem digitsOf_append (row row' : List Char) :
    digitsOf (row ++ row') = digitsOf row ++ digitsOf row' :=
  List.filter_append ..

theorem digitsOf_digits {row : List Char} (h : ∀ c ∈ row, c.isDigit = true) :
    digitsOf row = row :=
  List.filter_eq_self.2 fun c hc => ne_point_of_isDigit (h c hc)

theorem count_point_digits {row : List Char} (h : ∀ c ∈ row, c.isDigit = true) :
    row.count '.' = 0 :=
  List.count_eq_zero.2 fun hc => absurd (h _ hc) (by decide)

/-- A row of digits is a numeral without places. -/
theorem decimal?_digits {row : List Char} (h : ∀ c ∈ row, c.isDigit = true) (hne : row ≠ []) :
    decimal? row = some ⟨Nat.ofDigitChars 10 row 0, 0⟩ := by
  have hw : isWellFormed row = true := by
    rw [isWellFormed, count_point_digits h, digitsOf_digits h]
    simpa using hne
  have hp : placesOf row = 0 := by
    have hd : row.dropWhile (· != '.') = [] := by
      rw [← List.append_nil row,
        List.dropWhile_append_of_pos fun c hc => ne_point_of_isDigit (h c hc), List.dropWhile_nil]
    rw [placesOf, hd]
    rfl
  rw [decimal?, if_pos hw, value, digitsOf_digits h, hp]
  rfl

/-- Two rows of digits with a point between them are a numeral with as many places as there are
digits behind the point. -/
theorem decimal?_point {row row' : List Char} (h : ∀ c ∈ row, c.isDigit = true)
    (h' : ∀ c ∈ row', c.isDigit = true) (hne : row ++ row' ≠ []) :
    decimal? (row ++ '.' :: row')
      = some ⟨Nat.ofDigitChars 10 (row ++ row') 0, -(row'.length : Int)⟩ := by
  have hd : digitsOf (row ++ '.' :: row') = row ++ row' := by
    rw [digitsOf_append, digitsOf_digits h]
    exact congrArg (row ++ ·) (digitsOf_digits h')
  have hw : isWellFormed (row ++ '.' :: row') = true := by
    rw [isWellFormed, hd, List.count_append, List.count_cons_self, count_point_digits h,
      count_point_digits h']
    simpa [List.append_eq_nil_iff] using hne
  have hp : placesOf (row ++ '.' :: row') = row'.length := by
    rw [placesOf, List.dropWhile_append_of_pos fun c hc => ne_point_of_isDigit (h c hc)]
    rfl
  rw [decimal?, if_pos hw, value, hd, hp]

end Numeral

namespace Decimal

theorem isDigit_digitChars (d : Decimal) : ∀ c ∈ d.digitChars, c.isDigit = true :=
  fun _ hc => Nat.isDigit_of_mem_toDigits (by decide) (by decide) hc

theorem isDigit_replicate_zero (n : ℕ) : ∀ c ∈ List.replicate n '0', c.isDigit = true := by
  intro c hc
  rw [List.eq_of_mem_replicate hc]
  decide

theorem isDigit_append {row row' : List Char} (h : ∀ c ∈ row, c.isDigit = true)
    (h' : ∀ c ∈ row', c.isDigit = true) : ∀ c ∈ row ++ row', c.isDigit = true := by
  intro c hc
  rcases List.mem_append.1 hc with hc | hc
  · exact h c hc
  · exact h' c hc

/-- The digits of a number with a point, long enough for a digit in front of it. -/
def row (d : Decimal) : List Char :=
  List.replicate ((-d.exponent).toNat + 1 - d.digitChars.length) '0' ++ d.digitChars

theorem positional_of_neg {d : Decimal} (h : d.exponent < 0) :
    d.positional = d.row.take (d.row.length - (-d.exponent).toNat)
      ++ '.' :: d.row.drop (d.row.length - (-d.exponent).toNat) := by
  rw [positional, isWhole, decide_eq_false (by omega), if_neg Bool.false_ne_true]
  rfl

theorem isDigit_row (d : Decimal) : ∀ c ∈ d.row, c.isDigit = true :=
  isDigit_append (isDigit_replicate_zero _) d.isDigit_digitChars

theorem lt_length_row (d : Decimal) : (-d.exponent).toNat < d.row.length := by
  rw [row, List.length_append, List.length_replicate]
  omega

/-- A decimal in full consists of digits, with at most one point. -/
theorem isNumeralChar_positional (d : Decimal) : ∀ c ∈ d.positional, isNumeralChar c = true := by
  intro c hc
  rcases Int.lt_or_le d.exponent 0 with he | he
  · rw [positional_of_neg he, List.mem_append, List.mem_cons] at hc
    rcases hc with hc | rfl | hc
    · exact isNumeralChar_of_isDigit (d.isDigit_row c (List.mem_of_mem_take hc))
    · rfl
    · exact isNumeralChar_of_isDigit (d.isDigit_row c (List.mem_of_mem_drop hc))
  · rw [positional_of_nonneg he] at hc
    exact isNumeralChar_of_isDigit
      (isDigit_append d.isDigit_digitChars (isDigit_replicate_zero _) c hc)

theorem positional_ne_nil (d : Decimal) : d.positional ≠ [] := by
  rcases Int.lt_or_le d.exponent 0 with he | he
  · rw [positional_of_neg he]
    simp
  · rw [positional_of_nonneg he]
    exact List.append_ne_nil_of_left_ne_nil Nat.toDigits_ne_nil _

/-- A decimal in full is a numeral with the same nearest magnitude. -/
theorem decimal?_positional (d : Decimal) :
    ∃ e, Numeral.decimal? d.positional = some e ∧ e.nearest = d.nearest := by
  rcases Int.lt_or_le d.exponent 0 with he | he
  · refine ⟨d, ?_, rfl⟩
    have hlen := d.lt_length_row
    have hrow : Nat.ofDigitChars 10 d.row 0 = d.digits := by
      rw [row, Nat.ofDigitChars_append, Nat.ofDigitChars_replicate_zero, Nat.mul_zero, digitChars,
        Nat.ofDigitChars_ten_toDigits]
    rw [positional_of_neg he, Numeral.decimal?_point
      (fun c hc => d.isDigit_row c (List.mem_of_mem_take hc))
      (fun c hc => d.isDigit_row c (List.mem_of_mem_drop hc))
      (by rw [List.take_append_drop]; exact List.ne_nil_of_length_pos (Nat.zero_lt_of_lt hlen)),
      List.take_append_drop, hrow, List.length_drop]
    have hplaces : -((d.row.length - (d.row.length - (-d.exponent).toNat) : ℕ) : ℤ)
        = d.exponent := by omega
    rw [hplaces]
  · refine ⟨⟨Nat.ofDigitChars 10 (d.digitChars ++ List.replicate d.exponent.toNat '0') 0, 0⟩,
      ?_, ?_⟩
    · rw [positional_of_nonneg he]
      exact Numeral.decimal?_digits
        (isDigit_append d.isDigit_digitChars (isDigit_replicate_zero _))
        (List.append_ne_nil_of_left_ne_nil Nat.toDigits_ne_nil _)
    · have hdigits : Nat.ofDigitChars 10 (d.digitChars ++ List.replicate d.exponent.toNat '0') 0
          = d.digits * tenTo d.exponent.toNat := by
        rw [Nat.ofDigitChars_append, Nat.ofDigitChars_replicate_zero, digitChars,
          Nat.ofDigitChars_ten_toDigits, Nat.mul_comm]
        rfl
      have hden : (-d.exponent).toNat = 0 := Int.toNat_of_nonpos (Int.neg_nonpos_of_nonneg he)
      rw [hdigits, nearest, nearest, num, num, den, den, hden]
      simp

end Decimal

/-! ### Doubles that read back -/

/-- The plain layout writes a finite double without a sign in full. -/
theorem chars_plain {x : Float} (hf : x.isFinite = true) (hs : Magnitude.signBit x = false) :
    Layout.plain.chars x = (Magnitude.shortest (Magnitude.ofFloat x)).positional := by
  have hn : Magnitude.ofFloat x < Magnitude.count := (Magnitude.isFinite_iff x).1 hf
  simp only [Layout.chars, Magnitude.isNaN_of_isFinite hf, hs, Bool.false_eq_true, if_false,
    if_pos hn, List.nil_append, Layout.writeDecimal_plain]

/-- **A finite double without a sign reads back**: its plain text is a numeral, and the double
nearest to that is the double itself. -/
theorem toFloat?_chars {x : Float} (hf : x.isFinite = true) (hs : Magnitude.signBit x = false) :
    ∃ d, Numeral.decimal? (Layout.plain.chars x) = some d ∧ d.toFloat? = some x := by
  obtain ⟨d, hd, hn⟩ := (Magnitude.shortest (Magnitude.ofFloat x)).decimal?_positional
  refine ⟨d, by rw [chars_plain hf hs, hd], ?_⟩
  rw [Decimal.toFloat?, hn, Magnitude.nearest_shortest, Magnitude.toFloat?_ofFloat hf hs]

end Formulary
