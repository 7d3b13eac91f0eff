import Formulary.Proofs.Literal
import Formulary.Proofs.Number.Opposite
import Formulary.Proofs.Number.Shortest
import Formulary.Proofs.Unambiguous

/-!
# Numbers that are written out

A finite number without a sign is written as a numeral, and that numeral is read as the number
again: of all doubles it is the nearest to what is written. A finite number with a sign is written
as a minus sign and its opposite, and so it is read as two tokens (`scan_render_const`). No decimal
that is read as the same number has fewer digits (`exists_shortest_render_const`).
-/

namespace Formulary

/-- Digits and points that have a value are a numeral. -/
theorem isNumeral_of_decimal? {run : List Char} (h : ∀ c ∈ run, isNumeralChar c = true)
    {d : Decimal} (hd : Numeral.decimal? run = some d) : IsNumeral run := by
  have hwell : Numeral.isWellFormed run = true := by
    by_contra hne
    rw [(Numeral.decimal?_eq_none_iff run).2 (Bool.eq_false_iff.2 hne)] at hd
    cases hd
  rw [Numeral.isWellFormed, Bool.and_eq_true, decide_eq_true_iff, Bool.not_eq_true',
    List.isEmpty_eq_false_iff_exists_mem] at hwell
  obtain ⟨hpoints, c, hc⟩ := hwell
  have hchars : ∀ c ∈ run, c.isDigit = true ∨ c = '.' := fun c hc => by
    simpa [isNumeralChar] using h c hc
  rw [Numeral.digitsOf, List.mem_filter, bne_iff_ne] at hc
  exact ⟨hchars, hpoints, c, hc.1, (hchars c hc.1).resolve_right hc.2⟩

/-- A decimal in full is a numeral. -/
theorem isNumeral_positional (d : Decimal) : IsNumeral d.positional := by
  obtain ⟨e, he, -⟩ := d.decimal?_positional
  exact isNumeral_of_decimal? d.isNumeralChar_positional he

/-- The opposite of a number with a sign has none. -/
theorem signBit_neg_of_signBit {x : Float} (hf : x.isFinite = true)
    (hs : Magnitude.signBit x = true) : Magnitude.signBit (-x) = false := by
  rw [Magnitude.signBit_neg hf, hs]
  rfl

/-- A number with a sign is written as its opposite behind a minus sign. -/
theorem chars_plain_of_signBit {x : Float} (hf : x.isFinite = true)
    (hs : Magnitude.signBit x = true) :
    Layout.plain.chars x = '-' :: Layout.plain.chars (-x) := by
  have hnan := Magnitude.isNaN_of_isFinite hf
  have hnan' := Magnitude.isNaN_of_isFinite (Magnitude.isFinite_neg hf)
  rw [Layout.chars_plain_of_not_isNaN hnan, Layout.chars_plain_of_not_isNaN hnan', hs,
    signBit_neg_of_signBit hf hs, Magnitude.ofFloat_neg hf]
  rfl

namespace Formula

variable {x : Float}

theorem isNumeral_render_const (hf : x.isFinite = true) (hs : Magnitude.signBit x = false) :
    IsNumeral (const x).render.toList := by
  rw [toList_render_const, chars_plain hf hs]
  exact isNumeral_positional _

/-- A finite number without a sign is read back. -/
theorem scan_render_const_unsigned (hf : x.isFinite = true) (hs : Magnitude.signBit x = false) :
    Token.scan (const x).render = .ok [.number x] := by
  refine Scanner.Reads.scan ?_
  rw [toList_render_const]
  exact reads_chars ⟨hf, hs⟩

/-- The number is the nearest one to what is written. -/
theorem isNearest_render_const (hf : x.isFinite = true) (hs : Magnitude.signBit x = false) :
    Magnitude.IsNearest (Numeral.exactValue (const x).render.toList) x := by
  have hscan := scan_render_const_unsigned hf hs
  rw [← String.ofList_toList (s := (const x).render),
    Token.scan_eq_ok_iff (isNumeral_render_const hf hs)] at hscan
  obtain ⟨-, y, hy, hnearest⟩ := hscan
  cases hy
  exact hnearest

/-- What is written is a decimal with seventeen digits at most, and no decimal that is read as the
same number has fewer. -/
theorem exists_shortest_render_const (hf : x.isFinite = true) (hs : Magnitude.signBit x = false) :
    ∃ d : Decimal, (const x).render.toList = d.positional ∧ d.toFloat? = some x ∧
      d.digitChars.length ≤ 17 ∧
      ∀ d' : Decimal, d'.toFloat? = some x → d.digitChars.length ≤ d'.digitChars.length := by
  obtain ⟨hnearest, hlength, hshortest⟩ := Magnitude.isShortest_shortest (Magnitude.ofFloat x)
  refine ⟨Magnitude.shortest (Magnitude.ofFloat x), ?_, ?_, hlength, fun d' hd' => ?_⟩
  · rw [toList_render_const, chars_plain hf hs]
  · rw [Decimal.toFloat?, hnearest, Magnitude.toFloat?_ofFloat hf hs]
  · exact (hshortest d' (Magnitude.ofFloat_of_toFloat? hd').symm).1

/-- A finite number with a sign is read as a minus sign and its opposite. -/
theorem scan_render_const_signed (hf : x.isFinite = true) (hs : Magnitude.signBit x = true) :
    Token.scan (const x).render = .ok [.operator .subtract, .number (-x)] := by
  have hreads := Scanner.reads_nil.append_mark
    (reads_chars ⟨Magnitude.isFinite_neg hf, signBit_neg_of_signBit hf hs⟩)
    (c := '-') fun s => s.step_symbol .subtract
  refine Scanner.Reads.scan ?_
  rw [toList_render_const, chars_plain_of_signBit hf hs]
  exact hreads

/-- **A finite number survives being written out**, also the zeros, the smallest numbers and the
largest ones. Without a sign it is written as a numeral, that is with digits and at most one point
and nothing else, and this numeral is read as the same double, which is the nearest to what is
written. With a sign it is written as its opposite behind a minus sign, and so it is read. -/
theorem scan_render_const (h : x.isFinite = true) :
    (Magnitude.signBit x = false →
      IsNumeral (const x).render.toList ∧
      Magnitude.IsNearest (Numeral.exactValue (const x).render.toList) x ∧
      Token.scan (const x).render = .ok [.number x]) ∧
    (Magnitude.signBit x = true →
      (const x).render = "-" ++ (const (-x)).render ∧
      (-x).isFinite = true ∧ Magnitude.signBit (-x) = false ∧
      Magnitude.exactValue (-x) = -Magnitude.exactValue x ∧
      Token.scan (const x).render = .ok [.operator .subtract, .number (-x)]) := by
  refine ⟨fun hs => ⟨isNumeral_render_const h hs, isNearest_render_const h hs,
    scan_render_const_unsigned h hs⟩, fun hs => ?_⟩
  refine ⟨?_, Magnitude.isFinite_neg h, signBit_neg_of_signBit h hs, Magnitude.exactValue_neg h,
    scan_render_const_signed h hs⟩
  rw [← String.toList_inj, toList_render_const, chars_plain_of_signBit h hs,
    String.toList_append, toList_render_const]
  rfl

/-- The largest double, and the opposite of the smallest positive one. -/
theorem scan_render_const_extremes :
    (const 1.7976931348623157e308).render
      = .ofList ("17976931348623157".toList ++ .replicate 292 '0') ∧
    Token.scan (.ofList ("17976931348623157".toList ++ .replicate 292 '0'))
      = .ok [.number 1.7976931348623157e308] ∧
    (const (-5e-324)).render = .ofList ("-0.".toList ++ .replicate 323 '0' ++ ['5']) ∧
    Token.scan (.ofList ("-0.".toList ++ .replicate 323 '0' ++ ['5']))
      = .ok [.operator .subtract, .number 5e-324] := by
  have hlargest : (const 1.7976931348623157e308).render
      = .ofList ("17976931348623157".toList ++ .replicate 292 '0') := by decide +kernel
  have hsmallest : (const (-5e-324)).render
      = .ofList ("-0.".toList ++ .replicate 323 '0' ++ ['5']) := by decide +kernel
  have hopposite : - -(5e-324 : Float) = 5e-324 := by decide +kernel
  obtain ⟨hunsigned, -⟩ := @scan_render_const 1.7976931348623157e308 (by decide +kernel)
  obtain ⟨-, hsigned⟩ := @scan_render_const (-5e-324) (by decide +kernel)
  refine ⟨hlargest, hlargest ▸ (hunsigned (by decide +kernel)).2.2, hsmallest, ?_⟩
  rw [← hsmallest, (hsigned (by decide +kernel)).2.2.2.2, hopposite]

end Formula

end Formulary
