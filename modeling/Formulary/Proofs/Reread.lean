import Formulary.Proofs.Assembly

/-!
# Which formulas are read back

A formula need not come from a text: its numbers may be any doubles and its variables any
characters. Written out in full brackets, such a leaf may put a sign, a bracket, white space, a word
or a character without meaning into the text, and several leaves may do so at once. Still a text of
this kind is never read as another formula. It is read back, digits among the variables as numbers,
exactly if every number is finite and has no sign and every variable is a letter or a digit. In all
other cases it is refused (`compile_render_iff`).

The reason is a count. Each operation writes one operator, and there is one leaf more than there are
operations. What stands for a formula has one number or name more than it has operators
(`depth_of_ofTokens`), so the leaves have to give as many numbers and names as they are, less the
operators that they bring in. No leaf gives more than one, so each has to give one and no operator:
what one lacks, no other can make up for (`gives_render`).
-/

namespace Formulary

/-- Whether a token, as a leaf that is written out, is read as a number or a name: a finite number
without a sign, a letter, or a digit. -/
def Token.IsReadBack : Token → Prop
  | number x => x.isFinite = true ∧ Magnitude.signBit x = false
  | name c => Text.isAlphabetic c = true ∨ c.isDigit = true
  | operator _ | opening | closing | unreadable _ => True

/-- The formula with numbers in place of the variables that are digits. -/
def Formula.readDigits : Formula → Formula
  | const x => const x
  | var c => if c.isDigit then const (.ofNat (c.toNat - '0'.toNat)) else var c
  | binary l op r => binary l.readDigits op r.readDigits

/-! ### Digits -/

theorem exists_eq_ofNat_of_isDigit {c : Char} (h : c.isDigit = true) :
    ∃ n < 10, c = Char.ofNat (n + 48) := by
  obtain ⟨hlow, hhigh⟩ : 48 ≤ c.toNat ∧ c.toNat ≤ 57 := Char.isDigit_iff_toNat.1 h
  refine ⟨c.toNat - 48, by omega, ?_⟩
  rw [Nat.sub_add_cancel hlow, Char.ofNat_toNat]

/-- The number of a digit is written as the digit, and it is finite and has no sign. -/
theorem chars_digit {c : Char} (h : c.isDigit = true) :
    Layout.plain.chars (.ofNat (c.toNat - '0'.toNat)) = [c] ∧
      (Token.number (.ofNat (c.toNat - '0'.toNat))).IsPlain := by
  have hall : ∀ n < 10, Layout.plain.chars (.ofNat ((Char.ofNat (n + 48)).toNat - '0'.toNat))
        = [Char.ofNat (n + 48)] ∧
      (Float.ofNat ((Char.ofNat (n + 48)).toNat - '0'.toNat)).isFinite = true ∧
      Magnitude.signBit (.ofNat ((Char.ofNat (n + 48)).toNat - '0'.toNat)) = false := by
    decide +kernel
  obtain ⟨n, hn, rfl⟩ := exists_eq_ofNat_of_isDigit h
  exact hall n hn

namespace Formula

/-- A digit is written in the same way as its number. -/
theorem render_readDigits (f : Formula) : f.readDigits.render = f.render := by
  induction f with
  | const x => rfl
  | var c =>
    rw [readDigits]
    split
    · rename_i hc
      rw [render, render, ← String.toList_inj, Layout.toList_write, (chars_digit hc).1,
        Char.toString, String.toList_singleton]
    · rfl
  | binary l op r ihl ihr => rw [readDigits, render, render, ihl, ihr]

theorem isPlain_readDigits {f : Formula} (h : ∀ t ∈ f.leaves, t.IsReadBack) :
    ∀ t ∈ f.readDigits.leaves, t.IsPlain := by
  induction f with
  | const x => exact List.forall_mem_singleton.2 (h _ (List.mem_singleton.2 rfl))
  | var c =>
    have hc : (Token.name c).IsReadBack := h _ (List.mem_singleton.2 rfl)
    rw [readDigits]
    split
    · rename_i hd
      exact List.forall_mem_singleton.2 (chars_digit hd).2
    · rename_i hd
      exact List.forall_mem_singleton.2 (hc.resolve_right hd)
  | binary l op r ihl ihr =>
    rw [leaves, List.forall_mem_append] at h
    rw [readDigits, leaves, List.forall_mem_append]
    exact ⟨ihl h.1, ihr h.2⟩

/-- If every leaf is read back, the formula is. -/
theorem compile_render_of_isReadBack {f : Formula} (h : ∀ t ∈ f.leaves, t.IsReadBack) :
    compile f.render = .ok f.readDigits := by
  rw [← render_readDigits]
  exact compile_render_of_isPlain (isPlain_readDigits h)

end Formula

/-! ### What a leaf gives -/

/-- The characters `cs` give at most one more number or name than operators, and one more only if
`P` holds. -/
def Scanner.Gives (cs : List Char) (P : Prop) : Prop :=
  ∃ ts, Reads cs ts ∧ depth ts ≤ 1 ∧ (depth ts = 1 → P)

theorem Scanner.Gives.imp {cs : List Char} {P Q : Prop} (h : Gives cs P) (hPQ : P → Q) :
    Gives cs Q := by
  obtain ⟨ts, hts, hle, hP⟩ := h
  exact ⟨ts, hts, hle, fun hone => hPQ (hP hone)⟩

theorem Scanner.gives_of_depth_nonpos {cs : List Char} {ts : List Token} (h : Reads cs ts)
    (hd : depth ts ≤ 0) (P : Prop) : Gives cs P :=
  ⟨ts, h, by omega, fun hone => by omega⟩

/-- A minus sign in front of what gives one leaves none. -/
theorem Scanner.Gives.minus {cs : List Char} {P : Prop} (h : Gives cs P) (Q : Prop) :
    Gives ('-' :: cs) Q := by
  obtain ⟨ts, hts, hle, -⟩ := h
  have hminus := reads_nil.append_mark hts (c := '-') fun s => s.step_symbol .subtract
  refine gives_of_depth_nonpos hminus ?_ Q
  show depth (.operator .subtract :: ts) ≤ 0
  rw [depth_cons]
  show -1 + depth ts ≤ 0
  omega

/-- A piece without a flaw, by itself, has its tokens. -/
theorem Piece.reads {p : Piece} (hp : p.IsPure) {i : Nat} (hflaw : p.flaw? i = none) :
    Scanner.Reads p.chars p.tokens := by
  by_cases hrun : ∀ c, p ≠ sign c
  · intro found
    have htokens : p.pending.tokens = .ok p.tokens := by rw [tokens_pending hrun i, hflaw]
    rw [feed_chars hrun hp, Scanner.Run.reverse_of_tokens htokens]
    show Scanner.endRun _ [] .none = _
    rw [Scanner.endRun, htokens]
    rfl
  · push Not at hrun
    obtain ⟨c, rfl⟩ := hrun
    have hc : Glyph.of c ≠ .foreign := by
      intro hc
      rw [flaw?_sign hp, if_pos hc] at hflaw
      cases hflaw
    have hsign := Scanner.reads_nil.append Scanner.reads_nil (step_sign hp hc)
    rwa [List.append_nil, List.nil_append, reverse_tokens_sign] at hsign

/-- Letters of the Latin alphabet are a word. -/
theorem Piece.isPure_word_cons {c : Char} {run : List Char}
    (h : (c :: run).all Char.isAlpha = true) : (word (c :: run)).IsPure :=
  ⟨List.cons_ne_nil c run, fun d hd => Text.isAlphabetic_of_isAlpha (List.all_eq_true.1 h d hd)⟩

/-- A sign is no number and no name. -/
theorem depth_tokens_sign_le (c : Char) : depth (Piece.sign c).tokens ≤ 0 := by
  rw [Piece.tokens]
  cases ht : Token.ofSign? c with
  | none => exact Int.le_refl 0
  | some t =>
    obtain ⟨-, rfl⟩ | ⟨-, rfl⟩ | ⟨op, -, rfl⟩ := Token.ofSign?_eq_some_iff.1 ht
    · exact Int.le_refl 0
    · exact Int.le_refl 0
    · exact Int.negSucc_le_zero 0

/-- The shortest decimal of a finite magnitude is read as a number. -/
theorem Token.ofNumeral_shortest {n : Nat} (h : n < Magnitude.count) :
    ∃ x, ofNumeral (Magnitude.shortest n).positional = .ok (number x) := by
  obtain ⟨d, hd, hn⟩ := (Magnitude.shortest n).decimal?_positional
  have hx : d.toFloat? = Magnitude.toFloat? n := by
    rw [Decimal.toFloat?, hn, Magnitude.nearest_shortest]
  rw [ofNumeral, hd]
  dsimp only
  rw [hx, Magnitude.toFloat?_of_lt h]
  exact ⟨_, rfl⟩

/-- What is written for a magnitude is a number only if the magnitude is finite. -/
theorem gives_magnitude (n : Nat) :
    Scanner.Gives (if n < Magnitude.count then Layout.plain.writeDecimal (Magnitude.shortest n)
      else ['i', 'n', 'f']) (n < Magnitude.count) := by
  by_cases hn : n < Magnitude.count
  · obtain ⟨x, hx⟩ := Token.ofNumeral_shortest hn
    rw [if_pos hn, Layout.writeDecimal_plain]
    exact ⟨_, Scanner.reads_numeral (Decimal.isNumeralChar_positional _)
      (Decimal.positional_ne_nil _) hx, Int.le_refl 1, fun _ => hn⟩
  · rw [if_neg hn]
    have hpure : (Piece.word ['i', 'n', 'f']).IsPure := Piece.isPure_word_cons rfl
    exact Scanner.gives_of_depth_nonpos (Piece.reads hpure (i := 0) rfl) (Int.le_refl 0) _

/-- What is written for a number is one only if it is finite and has no sign. -/
theorem gives_chars (x : Float) :
    Scanner.Gives (Layout.plain.chars x) (Token.number x).IsReadBack := by
  rw [Layout.chars]
  by_cases hnan : x.isNaN = true
  · rw [if_pos hnan]
    have hpure : (Piece.word ['N', 'a', 'N']).IsPure := Piece.isPure_word_cons rfl
    exact Scanner.gives_of_depth_nonpos (Piece.reads hpure (i := 0) rfl) (Int.le_refl 0) _
  · rw [if_neg hnan]
    dsimp only
    have hmagnitude := gives_magnitude (Magnitude.ofFloat x)
    cases hs : Magnitude.signBit x with
    | false => exact hmagnitude.imp fun hn => ⟨(Magnitude.isFinite_iff x).2 hn, hs⟩
    | true => exact hmagnitude.minus _

/-- A character with a meaning is a number or a name only if it is a letter or a digit. -/
theorem gives_singleton {c : Char} (hc : Glyph.of c ≠ .foreign) :
    Scanner.Gives [c] (Token.name c).IsReadBack := by
  by_cases hn : isNumeralChar c = true
  · by_cases hd : c.isDigit = true
    · have hdigit := chars_digit hd
      rw [← hdigit.1]
      exact ⟨_, Formula.reads_chars hdigit.2, Int.le_refl 1, fun _ => .inr hd⟩
    · obtain rfl : c = '.' := by
        rw [isNumeralChar, Bool.or_eq_true] at hn
        exact beq_iff_eq.1 (hn.resolve_left hd)
      have hpure : (Piece.numeral ['.']).IsPure :=
        ⟨List.cons_ne_nil _ _, List.forall_mem_singleton.2 rfl⟩
      exact Scanner.gives_of_depth_nonpos (Piece.reads hpure (i := 0) rfl) (Int.le_refl 0) _
  · by_cases ha : Text.isAlphabetic c = true
    · exact ⟨_, Scanner.reads_letter ha, Int.le_refl 1, fun _ => .inl ha⟩
    · have hpure : (Piece.sign c).IsPure := ⟨Bool.eq_false_iff.2 hn, Bool.eq_false_iff.2 ha⟩
      have hflaw : (Piece.sign c).flaw? 0 = none := by rw [Piece.flaw?_sign hpure, if_neg hc]
      exact Scanner.gives_of_depth_nonpos (Piece.reads hpure hflaw) (depth_tokens_sign_le c) _

/-! ### What a formula gives -/

/-- A text that is scanned has no character without meaning. -/
theorem Scanner.glyph_ne_foreign_of_feed {s t : Scanner} {cs : List Char} (h : s.feed cs = .ok t) :
    ∀ c ∈ cs, Glyph.of c ≠ .foreign := by
  induction cs generalizing s with
  | nil => exact List.forall_mem_nil _
  | cons c cs ih =>
    rw [feed_cons] at h
    obtain ⟨u, hu, h⟩ := bind_eq_ok_iff.1 h
    refine List.forall_mem_cons.2 ⟨?_, ih h⟩
    intro hc
    rw [step, hc] at hu
    cases hu

namespace Formula

/-- A variable stands in the text of its formula. -/
theorem mem_render_of_name {f : Formula} {c : Char} (h : .name c ∈ f.leaves) :
    c ∈ f.render.toList := by
  induction f with
  | const x => cases List.mem_singleton.1 h
  | var d =>
    cases List.mem_singleton.1 h
    rw [render, Char.toString, String.toList_singleton]
    exact List.mem_singleton.2 rfl
  | binary l op r ihl ihr =>
    rw [toList_render_binary]
    rcases List.mem_append.1 h with h | h
    · simp [ihl h]
    · simp [ihr h]

/-- **No leaf makes up for another one.** The text of a formula has at most one more number or name
than operators, and it has one more only if every leaf is read back. -/
theorem gives_render {f : Formula} (hf : ∀ c, .name c ∈ f.leaves → Glyph.of c ≠ .foreign) :
    Scanner.Gives f.render.toList (∀ t ∈ f.leaves, t.IsReadBack) := by
  induction f with
  | const x =>
    rw [render, Layout.toList_write]
    exact (gives_chars x).imp List.forall_mem_singleton.2
  | var c =>
    rw [render, Char.toString, String.toList_singleton]
    exact (gives_singleton (hf c (List.mem_singleton.2 rfl))).imp List.forall_mem_singleton.2
  | binary l op r ihl ihr =>
    obtain ⟨ts, hts, hlel, hreadl⟩ := ihl fun c hc => hf c (List.mem_append_left _ hc)
    obtain ⟨us, hus, hler, hreadr⟩ := ihr fun c hc => hf c (List.mem_append_right _ hc)
    refine ⟨_, reads_render_binary hts hus, ?_⟩
    -- the operator takes one away, so there is one only if each operand gives one
    have hdepth : depth (.opening :: (ts ++ .operator op :: us) ++ [.closing])
        = depth ts + depth us - 1 := by
      rw [depth_append, depth_cons, depth_append, depth_cons (.operator op)]
      show 0 + (depth ts + (-1 + depth us)) + 0 = _
      omega
    rw [hdepth]
    refine ⟨by omega, ?_⟩
    intro h
    exact List.forall_mem_append.2 ⟨hreadl (by omega), hreadr (by omega)⟩

/-- If a formula is read back as any formula, every leaf is read back. -/
theorem isReadBack_of_compile_render {f g : Formula} (h : compile f.render = .ok g) :
    ∀ t ∈ f.leaves, t.IsReadBack := by
  obtain ⟨ts, hs, hg⟩ := compile_eq_ok_iff.1 h
  obtain ⟨s, hfeed, -⟩ := bind_eq_ok_iff.1 hs
  have hf : ∀ c, .name c ∈ f.leaves → Glyph.of c ≠ .foreign := fun c hc =>
    Scanner.glyph_ne_foreign_of_feed hfeed c (mem_render_of_name hc)
  obtain ⟨us, hus, -, hread⟩ := gives_render hf
  cases hs.symm.trans hus.scan
  exact hread (depth_of_ofTokens hg)

/-- A formula is read back, with numbers for digits, exactly if every leaf is. -/
theorem compile_render_eq_ok_iff {f g : Formula} :
    compile f.render = .ok g ↔ (∀ t ∈ f.leaves, t.IsReadBack) ∧ g = f.readDigits := by
  constructor
  · intro h
    have hf := isReadBack_of_compile_render h
    exact ⟨hf, Except.ok.inj (h.symm.trans (compile_render_of_isReadBack hf))⟩
  · rintro ⟨hf, rfl⟩
    exact compile_render_of_isReadBack hf

/-- Else it is refused. -/
theorem exists_compile_render_eq_error_iff {f : Formula} :
    (∃ e, compile f.render = .error e) ↔ ¬ ∀ t ∈ f.leaves, t.IsReadBack := by
  constructor
  · rintro ⟨e, he⟩ hf
    cases he.symm.trans (compile_render_of_isReadBack hf)
  · intro hf
    cases h : compile f.render with
    | ok g => exact absurd (isReadBack_of_compile_render h) hf
    | error e => exact ⟨e, rfl⟩

/-- The leaves are numbers and names. -/
theorem forall_isReadBack_iff {f : Formula} :
    (∀ t ∈ f.leaves, t.IsReadBack) ↔
      (∀ x, .number x ∈ f.leaves → x.isFinite = true ∧ Magnitude.signBit x = false) ∧
      ∀ c, .name c ∈ f.leaves → Text.isAlphabetic c = true ∨ c.isDigit = true := by
  refine ⟨fun h => ⟨fun x hx => h _ hx, fun c hc => h _ hc⟩, ?_⟩
  intro ⟨hx, hc⟩ t ht
  cases t with
  | number x => exact hx x ht
  | name c => exact hc c ht
  | operator | opening | closing | unreadable => trivial

/-- **A formula that is written out is read back as itself or refused.** It is read back, with the
variables that are digits as numbers, exactly if all its numbers are finite and have no sign and all
its variables are letters or digits. If one of them is not, the text is refused. -/
theorem compile_render_iff (f : Formula) :
    (∀ g, compile f.render = .ok g ↔
      ((∀ x, .number x ∈ f.leaves → x.isFinite = true ∧ Magnitude.signBit x = false) ∧
        ∀ c, .name c ∈ f.leaves → Text.isAlphabetic c = true ∨ c.isDigit = true) ∧
      g = f.readDigits) ∧
    ((∃ e, compile f.render = .error e) ↔
      (∃ x, .number x ∈ f.leaves ∧ (x.isFinite = false ∨ Magnitude.signBit x = true)) ∨
      ∃ c, .name c ∈ f.leaves ∧ Text.isAlphabetic c = false ∧ c.isDigit = false) := by
  constructor
  · intro g
    rw [compile_render_eq_ok_iff, forall_isReadBack_iff]
  · rw [exists_compile_render_eq_error_iff, forall_isReadBack_iff]
    simp only [not_and_or, not_forall, not_or, Bool.not_eq_true, Bool.not_eq_false, exists_prop]

end Formula

end Formulary
