import Formulary.Proofs.Grammar.Reading

/-!
# Which texts are accepted

Neither the siding nor assembly looks at what stands next to what, so more is accepted than
phrases of the grammar: `x y +` is read as `x + y`. What is accepted is a loose phrase whose reverse
Polish order is that of a formula. Among these the phrases of the grammar are the rows in which
operands and operators alternate (`phrase_iff_alternates`), and the main statement is
`compile_accepts_iff`.
-/

namespace Formulary

open Formula (atomLevel)

/-! ### Rows in which operands and operators alternate -/

/-- Whether an operand is due after a token, if the token fits at all: an operand or an opening
bracket where an operand is due, an operator or a closing bracket where none is. -/
def Token.dueAfter : Bool → Token → Option Bool
  | true, number _ | true, name _ => some false
  | true, opening => some true
  | false, operator _ => some true
  | false, closing => some false
  | _, _ => none

/-- Whether an operand is due after some tokens, if all of them fit. -/
def dueAfter (due : Bool) (ts : List Token) : Option Bool := ts.foldlM Token.dueAfter due

/-- Operands and operators alternate, inside brackets and outside, from an operand at the start to
one at the end. A pair of brackets counts as an operand, and there is one inside. -/
def Alternates (ts : List Token) : Prop := dueAfter true ts = some false

instance (ts : List Token) : Decidable (Alternates ts) := inferInstanceAs (Decidable (_ = _))

theorem dueAfter_append (due : Bool) (ts us : List Token) :
    dueAfter due (ts ++ us) = (dueAfter due ts).bind fun d => dueAfter d us :=
  List.foldlM_append ..

theorem dueAfter_cons (due : Bool) (t : Token) (ts : List Token) :
    dueAfter due (t :: ts) = (t.dueAfter due).bind fun d => dueAfter d ts :=
  List.foldlM_cons ..

theorem dueAfter_singleton (due : Bool) (t : Token) : dueAfter due [t] = t.dueAfter due := by
  rw [dueAfter_cons]
  exact Option.bind_fun_some _

/-- Operands and operators alternate around an operator if they do on both sides of it. -/
theorem alternates_operator {ts us : List Token} {op : Operator} :
    Alternates (ts ++ .operator op :: us) ↔ Alternates ts ∧ Alternates us := by
  rw [Alternates, dueAfter_append]
  constructor
  · intro h
    obtain ⟨d, hd, h⟩ := Option.bind_eq_some_iff.1 h
    cases d with
    | true => cases h
    | false => exact ⟨hd, h⟩
  · rintro ⟨hl, hr⟩
    rw [show dueAfter true ts = some false from hl]
    exact hr

/-- A pair of brackets is an operand if operands and operators alternate in it. -/
theorem dueAfter_bracketed {ts : List Token} {d : Bool} :
    dueAfter true (.opening :: ts ++ [.closing]) = some d ↔ Alternates ts ∧ d = false := by
  rw [List.cons_append, dueAfter_cons]
  show (dueAfter true (ts ++ [.closing]) = some d) ↔ _
  rw [dueAfter_append]
  constructor
  · intro h
    obtain ⟨e, he, h⟩ := Option.bind_eq_some_iff.1 h
    cases e with
    | true => cases h
    | false =>
      cases h
      exact ⟨he, rfl⟩
  · rintro ⟨h, rfl⟩
    rw [show dueAfter true ts = some false from h]
    rfl

/-! ### Phrases among loose phrases -/

/-- In a phrase operands and operators alternate. -/
theorem Formula.Phrase.alternates {k : Nat} {ts : List Token} {f : Formula} (h : Phrase k ts f) :
    Alternates ts := by
  induction h with
  | number x => rfl
  | name c => rfl
  | bracketed _ ih => exact dueAfter_bracketed.2 ⟨ih, rfl⟩
  | tighter _ _ ih => exact ih
  | binary op _ _ ihl ihr => exact alternates_operator.2 ⟨ihl, ihr⟩

theorem LoosePhrase.le_atomLevel {k : Nat} {ts p : List Token} (h : LoosePhrase k ts p) :
    k ≤ atomLevel := by
  induction h with
  | blank | operand | bracketed => exact Nat.le_refl _
  | tighter _ _ ih => exact Nat.le_of_succ_le ih
  | binary op => exact Nat.le_succ_of_le op.level_le_three

/-- After an operand none is due. -/
theorem dueAfter_append_operand {ts : List Token} {t : Token} (ht : t.isOperand = true) {d : Bool}
    (h : dueAfter true (ts ++ [t]) = some d) : dueAfter true ts = some true ∧ d = false := by
  rw [dueAfter_append] at h
  obtain ⟨e, he, h⟩ := Option.bind_eq_some_iff.1 h
  rw [dueAfter_singleton] at h
  cases e with
  | true =>
    refine ⟨he, ?_⟩
    cases t with
    | number | name => exact (Option.some.inj h).symm
    | unreadable => cases h
    | operator | opening | closing => cases ht
  | false =>
    cases t with
    | number | name | unreadable => cases h
    | operator | opening | closing => cases ht

/-- Where operands and operators alternate, a place for which an operand is still due is empty. -/
theorem LoosePhrase.eq_nil_of_due {ts p : List Token} (h : LoosePhrase atomLevel ts p)
    (hd : dueAfter true ts = some true) : ts = [] ∧ p = [] := by
  generalize hk : atomLevel = k at h
  cases h with
  | blank => exact ⟨rfl, rfl⟩
  | operand ht _ => exact absurd (dueAfter_append_operand ht hd).2 Bool.noConfusion
  | bracketed _ _ =>
    rw [dueAfter_append] at hd
    obtain ⟨e, -, hd⟩ := Option.bind_eq_some_iff.1 hd
    cases e with
    | true => exact absurd (dueAfter_bracketed.1 hd).2 Bool.noConfusion
    | false => cases hd
  | tighter _ h =>
    subst hk
    exact absurd h.le_atomLevel (by decide)
  | binary op =>
    have := op.level_le_three
    exact absurd hk (by rw [atomLevel]; omega)

/-- A loose phrase in which operands and operators alternate is a phrase, and laid flat its formula
is the order of the loose phrase. -/
theorem LoosePhrase.exists_phrase {k : Nat} {ts p : List Token} (h : LoosePhrase k ts p)
    (ha : Alternates ts) : ∃ f, Formula.Phrase k ts f ∧ p = f.toReversePolish := by
  induction h with
  | blank => cases ha
  | @operand ts p t ht h _ =>
    obtain ⟨rfl, rfl⟩ := h.eq_nil_of_due (dueAfter_append_operand ht ha).1
    cases t with
    | number x => exact ⟨_, .number x, rfl⟩
    | name c => exact ⟨_, .name c, rfl⟩
    | unreadable => cases ha
    | operator | opening | closing => cases ht
  | @bracketed ts us p q h _ _ ih =>
    rw [Alternates, dueAfter_append] at ha
    obtain ⟨d, hd, ha⟩ := Option.bind_eq_some_iff.1 ha
    cases d with
    | false => cases ha
    | true =>
      obtain ⟨rfl, rfl⟩ := h.eq_nil_of_due hd
      obtain ⟨f, hf, rfl⟩ := ih (dueAfter_bracketed.1 ha).1
      exact ⟨f, .bracketed hf, rfl⟩
  | tighter hk _ ih =>
    obtain ⟨f, hf, rfl⟩ := ih ha
    exact ⟨f, .tighter hk hf, rfl⟩
  | binary op _ _ ihl ihr =>
    obtain ⟨hl, hr⟩ := alternates_operator.1 ha
    obtain ⟨f, hf, rfl⟩ := ihl hl
    obtain ⟨g, hg, rfl⟩ := ihr hr
    exact ⟨_, .binary op hf hg, rfl⟩

namespace Formula

/-- A formula can be read off its tokens in reverse Polish order. -/
theorem toReversePolish_injective {f g : Formula} (h : f.toReversePolish = g.toReversePolish) :
    f = g :=
  Except.ok.inj <| (ofReversePolish_toReversePolish f).symm.trans <|
    h ▸ ofReversePolish_toReversePolish g

/-- Of the rows that stand for a formula, the phrases are those in which operands and operators
alternate. -/
theorem phrase_iff_alternates {ts : List Token} {f : Formula} (h : ofTokens ts = .ok f) :
    Phrase 1 ts f ↔ Alternates ts := by
  constructor
  · exact Phrase.alternates
  · intro ha
    obtain ⟨g, hg, hp⟩ := (ofTokens_eq_ok_iff.1 h).exists_phrase ha
    exact toReversePolish_injective hp ▸ hg

/-- **What is accepted**: a text stands for a formula exactly if its tokens are a loose phrase whose
reverse Polish order is the formula laid flat, and they are a phrase of the grammar exactly if
operands and operators alternate in them. -/
theorem compile_accepts_iff (text : String) (f : Formula) :
    (compile text = .ok f ↔
      ∃ ts, Token.scan text = .ok ts ∧ LoosePhrase 1 ts f.toReversePolish) ∧
    ∀ ts, Token.scan text = .ok ts → compile text = .ok f → (Phrase 1 ts f ↔ Alternates ts) := by
  constructor
  · rw [compile_eq_ok_iff]
    simp only [ofTokens_eq_ok_iff]
  · intro ts hs hf
    obtain ⟨us, hu, hf⟩ := compile_eq_ok_iff.1 hf
    obtain rfl : ts = us := Except.ok.inj (hs.symm.trans hu)
    exact phrase_iff_alternates hf

/-- The tokens of `x (y +)` are accepted, but operands and operators do not alternate in them. -/
theorem compile_accepts_iff_postfix :
    Token.scan "x (y +)" = .ok [.name 'x', .opening, .name 'y', .operator .add, .closing] ∧
    compile "x (y +)" = .ok (binary (var 'x') .add (var 'y')) ∧
    ¬ Alternates [.name 'x', .opening, .name 'y', .operator .add, .closing] ∧
    ¬ Phrase 1 [.name 'x', .opening, .name 'y', .operator .add, .closing]
      (binary (var 'x') .add (var 'y')) := by
  have hs : Token.scan "x (y +)"
      = .ok [.name 'x', .opening, .name 'y', .operator .add, .closing] := by rfl
  have hc : compile "x (y +)" = .ok (binary (var 'x') .add (var 'y')) := by rfl
  have ha : ¬ Alternates [.name 'x', .opening, .name 'y', .operator .add, .closing] := by decide
  exact ⟨hs, hc, ha, fun h => ha (((compile_accepts_iff _ _).2 _ hs hc).1 h)⟩

/-- The tokens of `x y +` are no phrase of the grammar, and yet the text stands for `x + y`. -/
theorem not_phrase_of_compile :
    ¬ ∀ text f, compile text = .ok f → ∃ ts g, Token.scan text = .ok ts ∧ Phrase 1 ts g := by
  intro h
  obtain ⟨ts, g, hs, hg⟩ := h "x y +" (binary (var 'x') .add (var 'y')) (by rfl)
  have hts : Token.scan "x y +" = .ok [.name 'x', .name 'y', .operator .add] := by rfl
  obtain rfl := Except.ok.inj (hs.symm.trans hts)
  exact absurd hg.alternates (by decide)

end Formula

end Formulary
