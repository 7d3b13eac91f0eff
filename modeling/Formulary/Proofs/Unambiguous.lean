import Formulary.Proofs.RoundTrip

/-!
# Formulas with the same text

The numbers of a formula may be any doubles, also those that no text is read as. Their texts may
begin with a minus sign, and may be words of letters. Still the text of a formula tells which
formula it is, if its variables are letters (`render_eq_iff`). No text needs to be read for that:
the text of a number or a variable contains neither blanks nor brackets, so it ends where the next
one stands, and an opening bracket tells an operation from a leaf. The same texts of leaves are
those of the same leaves (`eq_of_render_leaf`), so two formulas whose texts begin alike, with a
blank or a bracket behind each or nothing, are the same (`eq_of_render_append`).
-/

namespace Formulary

/-! ### The text of a number -/

namespace Layout

/-- The text of the magnitude with a given index. -/
def magnitudeChars (n : Nat) : List Char :=
  if n < Magnitude.count then (Magnitude.shortest n).positional else ['i', 'n', 'f']

theorem chars_plain_of_isNaN {x : Float} (h : x.isNaN = true) :
    plain.chars x = ['N', 'a', 'N'] := by
  rw [chars, if_pos h]

theorem chars_plain_of_not_isNaN {x : Float} (h : x.isNaN = false) :
    plain.chars x = (if Magnitude.signBit x then ['-'] else [])
      ++ magnitudeChars (Magnitude.ofFloat x) := by
  simp only [chars, h, Bool.false_eq_true, if_false, magnitudeChars, writeDecimal_plain]

/-- A magnitude is written with digits and a point, or as a word. -/
theorem mem_magnitudeChars {n : Nat} {c : Char} (h : c ∈ magnitudeChars n) :
    isNumeralChar c = true ∨ c ∈ ['i', 'n', 'f'] := by
  rw [magnitudeChars] at h
  split at h
  · exact .inl (Decimal.isNumeralChar_positional _ c h)
  · exact .inr h

/-- The text of a decimal in full tells which magnitude is nearest to it. -/
theorem nearest_eq_of_positional_eq {d e : Decimal} (h : d.positional = e.positional) :
    d.nearest = e.nearest := by
  obtain ⟨d', hd, hd'⟩ := d.decimal?_positional
  obtain ⟨e', he, he'⟩ := e.decimal?_positional
  rw [h, he, Option.some.injEq] at hd
  rw [← hd', ← he', hd]

/-- Different magnitudes, infinity among them, have different texts. -/
theorem magnitudeChars_injOn {n m : Nat} (hn : n ≤ Magnitude.count) (hm : m ≤ Magnitude.count)
    (h : magnitudeChars n = magnitudeChars m) : n = m := by
  have hne : ∀ d : Decimal, d.positional ≠ ['i', 'n', 'f'] := by
    intro d hd
    have hi := d.isNumeralChar_positional 'i' (hd ▸ List.mem_cons_self)
    exact absurd hi (by decide)
  rw [magnitudeChars, magnitudeChars] at h
  split at h <;> split at h
  · rw [← Magnitude.nearest_shortest n, nearest_eq_of_positional_eq h, Magnitude.nearest_shortest]
  · exact absurd h (hne _)
  · exact absurd h.symm (hne _)
  · omega

/-- Only a NaN is written with an `N`. -/
theorem mem_chars_plain_iff_isNaN {x : Float} : 'N' ∈ plain.chars x ↔ x.isNaN = true := by
  cases h : x.isNaN with
  | true => simp [chars_plain_of_isNaN h]
  | false =>
    have hnot : 'N' ∉ magnitudeChars (Magnitude.ofFloat x) := fun hn =>
      absurd (mem_magnitudeChars hn) (by decide)
    rw [chars_plain_of_not_isNaN h]
    split <;> simp [hnot]

/-- Only a double with a sign is written with a minus sign. -/
theorem mem_chars_plain_iff_signBit {x : Float} (h : x.isNaN = false) :
    '-' ∈ plain.chars x ↔ Magnitude.signBit x = true := by
  have hnot : '-' ∉ magnitudeChars (Magnitude.ofFloat x) := fun hn =>
    absurd (mem_magnitudeChars hn) (by decide)
  rw [chars_plain_of_not_isNaN h]
  split <;> simp [*]

/-- **The text of a double tells which double it is.** -/
theorem chars_plain_injective {x y : Float} (h : plain.chars x = plain.chars y) : x = y := by
  have hnan : x.isNaN = y.isNaN := by
    rw [Bool.eq_iff_iff, ← mem_chars_plain_iff_isNaN, h, mem_chars_plain_iff_isNaN]
  cases hx : x.isNaN with
  | true => exact Magnitude.eq_of_isNaN hx (hnan ▸ hx)
  | false =>
    have hy := hnan ▸ hx
    have hsign : Magnitude.signBit x = Magnitude.signBit y := by
      rw [Bool.eq_iff_iff, ← mem_chars_plain_iff_signBit hx, h, mem_chars_plain_iff_signBit hy]
    rw [chars_plain_of_not_isNaN hx, chars_plain_of_not_isNaN hy, hsign] at h
    exact Magnitude.eq_of_ofFloat_eq hsign (magnitudeChars_injOn
      (Magnitude.ofFloat_le_count hx) (Magnitude.ofFloat_le_count hy) (List.append_cancel_left h))

theorem chars_plain_ne_nil (x : Float) : plain.chars x ≠ [] := by
  cases hx : x.isNaN with
  | true => simp [chars_plain_of_isNaN hx]
  | false =>
    rw [chars_plain_of_not_isNaN hx, magnitudeChars]
    refine List.append_ne_nil_of_right_ne_nil _ ?_
    split
    · exact Decimal.positional_ne_nil _
    · exact List.cons_ne_nil _ _

/-- A single letter is no text of a number. -/
theorem chars_plain_ne_singleton {x : Float} {c : Char} (hc : Text.isAlphabetic c = true) :
    plain.chars x ≠ [c] := by
  have hmagnitude : ∀ n, magnitudeChars n ≠ [c] := by
    intro n hn
    rw [magnitudeChars] at hn
    split at hn
    · have hnumeral := Decimal.isNumeralChar_positional _ c (hn ▸ List.mem_cons_self)
      exact Bool.false_ne_true ((Text.isNumeralChar_of_isAlphabetic hc).symm.trans hnumeral)
    · cases hn
  intro h
  cases hx : x.isNaN with
  | true =>
    rw [chars_plain_of_isNaN hx] at h
    cases h
  | false =>
    rw [chars_plain_of_not_isNaN hx] at h
    split at h
    · obtain ⟨rfl, -⟩ := List.cons.inj h
      exact absurd (Text.isSign_of_isAlphabetic hc) (by decide)
    · exact hmagnitude _ h

end Layout

/-! ### Texts that end -/

/-- Whether a character stands between the leaves of a formula in full brackets, apart from the
operators. -/
def Text.isDelimiter (c : Char) : Bool := c == ' ' || c == '(' || c == ')'

/-- What follows a text does not go on with it: it is nothing, or a blank or a bracket. -/
def Stops (rest : List Char) : Prop := ∀ c ∈ rest.head?, Text.isDelimiter c = true

/-- A text without blanks and brackets ends where what follows stops it. -/
theorem eq_of_append_of_stops {cs ds rest rest' : List Char}
    (hcs : ∀ c ∈ cs, Text.isDelimiter c = false) (hds : ∀ c ∈ ds, Text.isDelimiter c = false)
    (hrest : Stops rest) (hrest' : Stops rest') (h : cs ++ rest = ds ++ rest') :
    cs = ds ∧ rest = rest' := by
  have htake : ∀ {cs rest : List Char}, (∀ c ∈ cs, Text.isDelimiter c = false) → Stops rest →
      (cs ++ rest).takeWhile (fun c => !Text.isDelimiter c) = cs := by
    intro cs rest hcs hrest
    rw [List.takeWhile_append_of_pos fun c hc => by rw [hcs c hc]; rfl]
    cases rest with
    | nil => exact List.append_nil cs
    | cons c rest =>
      have hc : Text.isDelimiter c = true := hrest c rfl
      rw [List.takeWhile_cons_of_neg (by simp [hc]), List.append_nil]
  have heq : cs = ds := by rw [← htake hcs hrest, h, htake hds hrest']
  exact ⟨heq, List.append_cancel_left (heq ▸ h)⟩

theorem isDelimiter_of_isNumeralChar {c : Char} (h : isNumeralChar c = true) :
    Text.isDelimiter c = false := by
  rw [Bool.eq_false_iff]
  intro hc
  simp only [Text.isDelimiter, Bool.or_eq_true, beq_iff_eq] at hc
  obtain (rfl | rfl) | rfl := hc <;> exact absurd h (by decide)

theorem isDelimiter_of_isAlphabetic {c : Char} (h : Text.isAlphabetic c = true) :
    Text.isDelimiter c = false := by
  have hblank := Text.isWhiteSpace_of_isAlphabetic h
  have hsign := Text.isSign_of_isAlphabetic h
  rw [Bool.eq_false_iff]
  intro hc
  simp only [Text.isDelimiter, Bool.or_eq_true, beq_iff_eq] at hc
  obtain (rfl | rfl) | rfl := hc
  · exact absurd hblank (by decide)
  · exact absurd hsign (by decide)
  · exact absurd hsign (by decide)

theorem isDelimiter_of_all {cs : List Char} (h : cs.all (fun c => !Text.isDelimiter c) = true) :
    ∀ c ∈ cs, Text.isDelimiter c = false := by
  simpa using h

/-- The text of a number has no blanks and no brackets. -/
theorem isDelimiter_chars_plain {x : Float} :
    ∀ c ∈ Layout.plain.chars x, Text.isDelimiter c = false := by
  have hmagnitude : ∀ n, ∀ c ∈ Layout.magnitudeChars n, Text.isDelimiter c = false := by
    intro n c hc
    rcases Layout.mem_magnitudeChars hc with hc | hc
    · exact isDelimiter_of_isNumeralChar hc
    · exact isDelimiter_of_all (by decide : ['i', 'n', 'f'].all _ = true) c hc
  cases hx : x.isNaN with
  | true =>
    rw [Layout.chars_plain_of_isNaN hx]
    exact isDelimiter_of_all (by decide)
  | false =>
    rw [Layout.chars_plain_of_not_isNaN hx, List.forall_mem_append]
    refine ⟨isDelimiter_of_all ?_, hmagnitude _⟩
    split <;> decide

namespace Formula

/-- Two formulas have the same shape, operators and variables and the same numbers: doubles with the
same bits, or NaNs both. -/
def Alike : Formula → Formula → Prop
  | const x, const y => x.toBits = y.toBits ∨ x.isNaN = true ∧ y.isNaN = true
  | var c, var d => c = d
  | binary l p r, binary l' q r' => l.Alike l' ∧ p = q ∧ r.Alike r'
  | _, _ => False

theorem alike_refl (f : Formula) : f.Alike f := by
  induction f with
  | const x => exact .inl rfl
  | var c => exact rfl
  | binary l op r ihl ihr => exact ⟨ihl, rfl, ihr⟩

/-- As there is one NaN, formulas that are alike are the same. -/
theorem alike_iff_eq {f g : Formula} : f.Alike g ↔ f = g := by
  refine ⟨?_, fun h => h ▸ f.alike_refl⟩
  intro h
  induction f generalizing g with
  | const x =>
    cases g with
    | const y =>
      rcases h with h | ⟨hx, hy⟩
      · rw [Magnitude.eq_of_toBits_eq h]
      · rw [Magnitude.eq_of_isNaN hx hy]
    | var | binary => cases h
  | var c =>
    cases g with
    | var d => rw [show c = d from h]
    | const | binary => cases h
  | binary l op r ihl ihr =>
    cases g with
    | binary l' op' r' =>
      obtain ⟨hl, rfl, hr⟩ := h
      rw [ihl hl, ihr hr]
    | const | var => cases h

/-! ### The text of a formula -/

/-- Whether a formula is a number or a variable. -/
def isLeaf : Formula → Bool
  | const _ | var _ => true
  | binary _ _ _ => false

/-- Whether the variables of a formula are letters. -/
def IsLettered (f : Formula) : Prop := ∀ c, .name c ∈ f.leaves → Text.isAlphabetic c = true

theorem IsLettered.left {l r : Formula} {op : Operator} (h : (binary l op r).IsLettered) :
    l.IsLettered := fun c hc => h c (List.mem_append_left _ hc)

theorem IsLettered.right {l r : Formula} {op : Operator} (h : (binary l op r).IsLettered) :
    r.IsLettered := fun c hc => h c (List.mem_append_right _ hc)

theorem toList_render_const (x : Float) : (const x).render.toList = Layout.plain.chars x :=
  Layout.toList_write ..

theorem toList_render_var (c : Char) : (var c).render.toList = [c] :=
  String.toList_singleton ..

/-- The text of a number or a letter has no blanks and no brackets. -/
theorem isDelimiter_render {f : Formula} (hf : f.isLeaf = true) (h : f.IsLettered) :
    ∀ c ∈ f.render.toList, Text.isDelimiter c = false := by
  cases f with
  | const x =>
    rw [toList_render_const]
    exact isDelimiter_chars_plain
  | var d =>
    rw [toList_render_var, List.forall_mem_singleton]
    exact isDelimiter_of_isAlphabetic (h d (List.mem_singleton.2 rfl))
  | binary => cases hf

theorem render_ne_nil (f : Formula) : f.render.toList ≠ [] := by
  cases f with
  | const x =>
    rw [toList_render_const]
    exact Layout.chars_plain_ne_nil x
  | var c => simp [toList_render_var]
  | binary => simp [toList_render_binary]

/-- A number or a letter is told by its text. -/
theorem eq_of_render_leaf {f g : Formula} (hf : f.isLeaf = true) (hg : g.isLeaf = true)
    (hfl : f.IsLettered) (hgl : g.IsLettered) (h : f.render.toList = g.render.toList) : f = g := by
  cases f with
  | const x =>
    cases g with
    | const y =>
      rw [toList_render_const, toList_render_const] at h
      rw [Layout.chars_plain_injective h]
    | var d =>
      rw [toList_render_const, toList_render_var] at h
      exact absurd h (Layout.chars_plain_ne_singleton (hgl d (List.mem_singleton.2 rfl)))
    | binary => cases hg
  | var c =>
    cases g with
    | const y =>
      rw [toList_render_const, toList_render_var] at h
      exact absurd h.symm (Layout.chars_plain_ne_singleton (hfl c (List.mem_singleton.2 rfl)))
    | var d =>
      rw [toList_render_var, toList_render_var] at h
      rw [List.singleton_inj.1 h]
    | binary => cases hg
  | binary => cases hf

/-- An operation, which begins with a bracket, is not mistaken for a leaf. -/
theorem render_leaf_append_ne_binary {f l r : Formula} {op : Operator} (hf : f.isLeaf = true)
    (hfl : f.IsLettered) (rest rest' : List Char) :
    f.render.toList ++ rest ≠ (binary l op r).render.toList ++ rest' := by
  intro h
  obtain ⟨c, cs, hcs⟩ := List.exists_cons_of_ne_nil f.render_ne_nil
  rw [toList_render_binary, hcs] at h
  obtain ⟨rfl, -⟩ := List.cons.inj h
  exact absurd (isDelimiter_render hf hfl '(' (hcs ▸ List.mem_cons_self)) (by decide)

theorem stops_blank (rest : List Char) : Stops (' ' :: rest) := by
  rintro c ⟨⟩
  rfl

theorem stops_closing (rest : List Char) : Stops (')' :: rest) := by
  rintro c ⟨⟩
  rfl

/-- **A formula ends where its text ends.** If two formulas are written with something behind each
that does not go on with its text, and the whole is the same, the formulas are the same, and what
stands behind them is. -/
theorem eq_of_render_append {f g : Formula} (hf : f.IsLettered) (hg : g.IsLettered)
    {rest rest' : List Char} (hrest : Stops rest) (hrest' : Stops rest')
    (h : f.render.toList ++ rest = g.render.toList ++ rest') : f = g ∧ rest = rest' := by
  induction f generalizing g rest rest' with
  | const | var =>
    cases g with
    | const | var =>
      obtain ⟨heq, hrests⟩ := eq_of_append_of_stops (isDelimiter_render rfl hf)
        (isDelimiter_render rfl hg) hrest hrest' h
      exact ⟨eq_of_render_leaf rfl rfl hf hg heq, hrests⟩
    | binary => exact absurd h (render_leaf_append_ne_binary rfl hf _ _)
  | binary l op r ihl ihr =>
    cases g with
    | const | var => exact absurd h.symm (render_leaf_append_ne_binary rfl hg _ _)
    | binary l' op' r' =>
      simp only [toList_render_binary, List.cons_append, List.append_assoc, List.cons.injEq,
        true_and, List.nil_append] at h
      obtain ⟨rfl, hbehind⟩ := ihl hf.left hg.left (stops_blank _) (stops_blank _) h
      simp only [List.cons.injEq, true_and] at hbehind
      obtain ⟨hop, hright⟩ := hbehind
      obtain ⟨rfl, hclosing⟩ := ihr hf.right hg.right (stops_closing _) (stops_closing _) hright
      obtain rfl := Operator.symbol_inj.1 hop
      exact ⟨rfl, (List.cons.inj hclosing).2⟩

/-- **The text of a formula tells which formula it is**, if its variables are letters: formulas have
the same text exactly if they are alike, and then, as there is only one NaN, they are the same. -/
theorem render_eq_iff {f g : Formula} (hf : ∀ c, .name c ∈ f.leaves → Text.isAlphabetic c = true)
    (hg : ∀ c, .name c ∈ g.leaves → Text.isAlphabetic c = true) :
    (f.render = g.render ↔ f.Alike g) ∧ (f.Alike g ↔ f = g) := by
  refine ⟨?_, alike_iff_eq⟩
  constructor
  · intro h
    have hstops : Stops [] := fun c hc => by cases hc
    exact alike_iff_eq.2 (eq_of_render_append hf hg hstops hstops (by rw [h])).1
  · intro h
    rw [alike_iff_eq.1 h]

/-- The two zeros compare equal, and so do these formulas, but their texts `(0 - i)` and `(-0 - i)`
differ. -/
theorem render_eq_iff_zeros :
    (∀ c, .name c ∈ (binary (const 0.0) .subtract (var 'i')).leaves →
      Text.isAlphabetic c = true) ∧
    (∀ c, .name c ∈ (binary (const (-0.0)) .subtract (var 'i')).leaves →
      Text.isAlphabetic c = true) ∧
    (binary (const 0.0) .subtract (var 'i') == binary (const (-0.0)) .subtract (var 'i')) = true ∧
    (binary (const 0.0) .subtract (var 'i')).render
      ≠ (binary (const (-0.0)) .subtract (var 'i')).render := by
  have hletters : ∀ x : Float, ∀ c, .name c ∈ (binary (const x) .subtract (var 'i')).leaves →
      Text.isAlphabetic c = true := by
    intro x c hc
    obtain rfl : c = 'i' := by simpa [leaves] using hc
    exact Text.isAlphabetic_of_isLower rfl
  have hdiffer : binary (const 0.0) .subtract (var 'i')
      ≠ binary (const (-0.0)) .subtract (var 'i') := by decide +kernel
  obtain ⟨hrender, halike⟩ := render_eq_iff (hletters 0.0) (hletters (-0.0))
  exact ⟨hletters _, hletters _, by decide +kernel,
    fun h => hdiffer (halike.1 (hrender.1 h))⟩

end Formula

end Formulary
