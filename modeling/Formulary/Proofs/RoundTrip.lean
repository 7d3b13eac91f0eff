import Formulary.Proofs.Grammar.Reading
import Formulary.Proofs.Number.Numeral

/-!
# Formulas in full brackets

A formula in full brackets has a token for every sign that is written, and these tokens are a phrase
of the grammar that stands for the formula (`phrase_inBrackets`). The scan finds them, because
brackets and white space end every run, provided that the numbers of the formula are finite and
without a sign and its variables letters (`reads_render`). That is so for every formula that a text
stands for, so it is given back by its own text (`compile_render`).
-/

namespace Formulary

/-! ### Texts that stand by themselves -/

namespace Scanner

/-- The characters `cs`, where no run is being gathered, give the tokens `ts` by the time the last
run in them has ended. -/
def Reads (cs : List Char) (ts : List Token) : Prop :=
  ∀ found, (feed ⟨found, .none⟩ cs >>= fun s => s.endRun [] .none)
    = .ok ⟨ts.reverse ++ found, .none⟩

theorem reads_nil : Reads [] [] := fun _ => rfl

/-- A character that ends the run in front of it joins two texts. -/
theorem Reads.append {cs ds : List Char} {ts us : List Token} (hcs : Reads cs ts)
    (hds : Reads ds us) {c : Char} {behind : List Token}
    (hc : ∀ s : Scanner, s.step c = s.endRun behind .none) :
    Reads (cs ++ c :: ds) (ts ++ behind.reverse ++ us) := by
  intro found
  have hfeed : feed ⟨found, .none⟩ (cs ++ c :: ds)
      = feed ⟨behind ++ (ts.reverse ++ found), .none⟩ ds := by
    obtain ⟨s, hs, hend⟩ := bind_eq_ok_iff.1 (hcs found)
    rw [feed_append_of_ok hs, feed_cons, hc, endRun_eq, hend]
    rfl
  rw [hfeed, hds]
  simp

/-- White space joins two texts. -/
theorem Reads.append_blank {cs ds : List Char} {ts us : List Token} (hcs : Reads cs ts)
    (hds : Reads ds us) {c : Char} (hc : Glyph.of c = .blank) :
    Reads (cs ++ c :: ds) (ts ++ us) := by
  have hstep : ∀ s : Scanner, s.step c = s.endRun [] .none := fun s => by rw [step, hc]
  simpa using hcs.append hds hstep

/-- An operator or a bracket joins two texts. -/
theorem Reads.append_mark {cs ds : List Char} {ts us : List Token} (hcs : Reads cs ts)
    (hds : Reads ds us) {c : Char} {t : Token} (hc : ∀ s : Scanner, s.step c = s.endRun [t] .none) :
    Reads (cs ++ c :: ds) (ts ++ t :: us) := by
  simpa using hcs.append hds hc

theorem reads_numeral {run : List Char} (h : ∀ c ∈ run, isNumeralChar c = true) (hne : run ≠ [])
    {t : Token} (ht : Token.ofNumeral run = .ok t) : Reads run [t] := by
  intro found
  rw [feed_whole_numeral h hne]
  show endRun _ [] .none = _
  rw [endRun, Run.tokens, List.reverse_reverse, ht]
  rfl

theorem reads_letter {c : Char} (h : Text.isAlphabetic c = true) : Reads [c] [.name c] := by
  intro found
  rw [feed_cons, step, Glyph.of_letter h]
  rfl

/-- A text that stands by itself has its tokens. -/
theorem Reads.scan {text : String} {ts : List Token} (h : Reads text.toList ts) :
    Token.scan text = .ok ts := by
  obtain ⟨s, hs, hend⟩ := bind_eq_ok_iff.1 (h [])
  rw [Token.scan, start, hs]
  show (s.endRun [] .none).map _ = _
  rw [hend]
  simp [Except.map]

end Scanner

namespace Formula

/-! ### The tokens of a formula in full brackets -/

/-- The tokens of a formula in full brackets. -/
def inBrackets : Formula → List Token
  | const x => [.number x]
  | var c => [.name c]
  | binary l op r => .opening :: (l.inBrackets ++ .operator op :: r.inBrackets) ++ [.closing]

/-- A formula in full brackets is a phrase that stands for it. -/
theorem phrase_inBrackets (f : Formula) : Phrase atomLevel f.inBrackets f := by
  induction f with
  | const x => exact .number x
  | var c => exact .name c
  | binary l op r ihl ihr =>
    have hop := op.level_le_three
    have hl := ihl.of_le op.level_pos (Nat.le_succ_of_le hop)
    have hr := ihr.of_le (Nat.le_add_left 1 _) (Nat.succ_le_succ hop)
    exact .bracketed ((Phrase.binary op hl hr).of_le (Nat.le_refl 1) op.level_pos)

/-- A finite number without a sign is scanned as itself. -/
theorem ofNumeral_chars {x : Float} (h : (Token.number x).IsPlain) :
    Token.ofNumeral (Layout.plain.chars x) = .ok (.number x) := by
  obtain ⟨d, hd, hx⟩ := toFloat?_chars h.1 h.2
  rw [Token.ofNumeral, hd]
  dsimp only
  rw [hx]

theorem reads_chars {x : Float} (h : (Token.number x).IsPlain) :
    Scanner.Reads (Layout.plain.chars x) [.number x] := by
  refine Scanner.reads_numeral ?_ ?_ (ofNumeral_chars h)
  · rw [chars_plain h.1 h.2]
    exact Decimal.isNumeralChar_positional _
  · rw [chars_plain h.1 h.2]
    exact Decimal.positional_ne_nil _

/-- The text of an operation has the tokens of its operands, the operator and two brackets. -/
theorem reads_render_binary {l r : Formula} {op : Operator} {ts us : List Token}
    (hl : Scanner.Reads l.render.toList ts) (hr : Scanner.Reads r.render.toList us) :
    Scanner.Reads (binary l op r).render.toList
      (.opening :: (ts ++ .operator op :: us) ++ [.closing]) := by
  have hblank : Glyph.of ' ' = .blank := Glyph.of_blank (by decide)
  have hleft := Scanner.reads_nil.append_mark hl (c := '(') (t := .opening)
    (Scanner.step_mark (by decide))
  have hright := (Scanner.reads_nil.append_blank hr hblank).append_mark Scanner.reads_nil
    (c := ')') (t := .closing) (Scanner.step_mark (by decide))
  have hop := (hleft.append_blank Scanner.reads_nil hblank).append_mark hright
    fun s => s.step_symbol op
  rw [toList_render_binary]
  simpa using hop

/-- **The text of a formula in full brackets has the tokens that are written in it**, if its numbers
are finite and without a sign and its variables letters. -/
theorem reads_render {f : Formula} (h : ∀ t ∈ f.leaves, t.IsPlain) :
    Scanner.Reads f.render.toList f.inBrackets := by
  induction f with
  | const x =>
    rw [render, Layout.toList_write]
    exact reads_chars (h _ (List.mem_singleton.2 rfl))
  | var c =>
    rw [render, Char.toString, String.toList_singleton]
    exact Scanner.reads_letter (h _ (List.mem_singleton.2 rfl))
  | binary l op r ihl ihr =>
    exact reads_render_binary (ihl fun t ht => h t (List.mem_append_left _ ht))
      (ihr fun t ht => h t (List.mem_append_right _ ht))

/-! ### Formulas that a text stands for -/

/-- The operands of a formula laid flat are its numbers and variables from left to right. -/
theorem filter_isOperand_toReversePolish (f : Formula) :
    f.toReversePolish.filter Token.isOperand = f.leaves := by
  induction f with
  | const | var => rfl
  | binary l op r ihl ihr =>
    rw [toReversePolish, List.filter_append, List.filter_append, ihl, ihr]
    exact List.append_nil _

/-- The numbers of a formula that a text stands for are finite and have no sign, and its variables
are letters. -/
theorem isPlain_of_compile {text : String} {f : Formula} (h : compile text = .ok f) :
    ∀ t ∈ f.leaves, t.IsPlain := by
  obtain ⟨ts, hs, hf⟩ := compile_eq_ok_iff.1 h
  intro t ht
  rw [← filter_isOperand_toReversePolish, List.mem_filter] at ht
  have hmem := (ofTokens_eq_ok_iff.1 hf).perm.mem_iff.1 ht.1
  exact isPlain_of_scan hs t (List.mem_of_mem_filter hmem)

/-- A formula of plain numbers and letters is given back by its text. -/
theorem compile_render_of_isPlain {f : Formula} (h : ∀ t ∈ f.leaves, t.IsPlain) :
    compile f.render = .ok f := by
  have hp := f.phrase_inBrackets.of_le (Nat.le_refl 1) (by decide)
  exact compile_eq_ok_iff.2 ⟨_, (reads_render h).scan, ofTokens_of_phrase hp⟩

/-- Where all numbers are finite, a formula is the same as itself. -/
theorem beq_self_of_isPlain {f : Formula} (h : ∀ t ∈ f.leaves, t.IsPlain) : (f == f) = true := by
  induction f with
  | const x => exact Magnitude.beq_self_of_isFinite (h _ (List.mem_singleton.2 rfl)).1
  | var c => exact beq_self_eq_true c
  | binary l op r ihl ihr =>
    have hl := ihl fun t ht => h t (List.mem_append_left _ ht)
    have hr := ihr fun t ht => h t (List.mem_append_right _ ht)
    show (l == l && decide (op = op) && r == r) = true
    rw [hl, hr, decide_eq_true rfl]
    rfl

/-- **A formula that a text stands for is given back by its own text**: its numbers are finite and
without a sign, its variables are letters, and written out in full brackets it is read as the same
formula, with the same value for all bindings. -/
theorem compile_render {text : String} {f : Formula} (h : compile text = .ok f) :
    (∀ x, .number x ∈ f.leaves → x.isFinite = true ∧ Magnitude.signBit x = false) ∧
    (∀ c, .name c ∈ f.leaves → Text.isAlphabetic c = true) ∧
    ∃ f', compile f.render = .ok f' ∧ f' = f ∧ (f' == f) = true ∧ ∀ b, f'.eval b = f.eval b := by
  have hf := isPlain_of_compile h
  exact ⟨fun x hx => hf _ hx, fun c hc => hf _ hc, f, compile_render_of_isPlain hf, rfl,
    beq_self_of_isPlain hf, fun _ => rfl⟩

set_option maxRecDepth 4000 in
/-- The unwritten product of `2x - y` is written out, and the brackets change nothing. -/
theorem compile_render_product :
    compile "2x - y" = .ok (binary (binary (const 2.0) .multiply (var 'x')) .subtract (var 'y')) ∧
    (binary (binary (const 2.0) .multiply (var 'x')) .subtract (var 'y')).render
      = "((2 * x) - y)" ∧
    compile "((2 * x) - y)"
      = .ok (binary (binary (const 2.0) .multiply (var 'x')) .subtract (var 'y')) := by
  have hc : compile "2x - y"
      = .ok (binary (binary (const 2.0) .multiply (var 'x')) .subtract (var 'y')) := by rfl
  have hr : (binary (binary (const 2.0) .multiply (var 'x')) .subtract (var 'y')).render
      = "((2 * x) - y)" := by decide +kernel
  obtain ⟨-, -, f, hf, rfl, -⟩ := compile_render hc
  exact ⟨hc, hr, hr ▸ hf⟩

end Formula

end Formulary
