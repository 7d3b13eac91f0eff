import Formulary.Proofs.Grammar.Loose
import Formulary.Proofs.Scan

/-!
# How formulas are read

Assembly undoes laying flat: what is on the stack, laid flat from the bottom to the top, is the row
that has been used (`assemble_eq_ok_iff`), so the only tokens from which a formula is assembled are
its own tokens in reverse Polish order (`ofReversePolish_eq_ok_iff`). So a row of tokens stands for
a formula exactly if it is a loose phrase in that order (`ofTokens_eq_ok_iff`), and every phrase of
the grammar stands for the formula that the grammar gives it (`compile_of_phrase`).
-/

namespace Formulary.Formula

/-! ### Assembly undoes laying flat -/

/-- Assembly moves the tokens onto the stack, where they lie flat. -/
theorem flatMap_toReversePolish_of_assemble {ts : List Token} {stack stack' : List Formula}
    (h : assemble stack ts = .ok stack') :
    stack'.reverse.flatMap toReversePolish = stack.reverse.flatMap toReversePolish ++ ts := by
  induction ts generalizing stack with
  | nil =>
    cases h
    exact (List.append_nil _).symm
  | cons t ts ih =>
    rw [assemble_cons, bind_eq_ok_iff] at h
    obtain ⟨next, hstep, h⟩ := h
    have hnext : next.reverse.flatMap toReversePolish
        = stack.reverse.flatMap toReversePolish ++ [t] := by
      cases t with
      | number | name =>
        cases hstep
        simp [toReversePolish]
      | operator op =>
        rcases stack with - | ⟨r, - | ⟨l, rest⟩⟩
        · cases hstep
        · cases hstep
        · cases hstep
          simp [toReversePolish]
      | opening | closing | unreadable => cases hstep
    rw [ih h, hnext, List.append_assoc, List.singleton_append]

/-- Formulas laid flat one after another put themselves on the stack one by one. -/
theorem assemble_flatMap_toReversePolish (fs stack : List Formula) :
    assemble stack (fs.flatMap toReversePolish) = .ok (fs.reverse ++ stack) := by
  induction fs generalizing stack with
  | nil => rfl
  | cons f fs ih =>
    rw [List.flatMap_cons, assemble_append, assemble_toReversePolish, List.reverse_cons,
      List.append_assoc]
    exact ih (f :: stack)

/-- A row leaves the formulas of which it is made, and no others. -/
theorem assemble_eq_ok_iff {ts : List Token} {stack : List Formula} :
    assemble [] ts = .ok stack ↔ ts = stack.reverse.flatMap toReversePolish := by
  constructor
  · intro h
    exact (flatMap_toReversePolish_of_assemble h).symm
  · rintro rfl
    rw [assemble_flatMap_toReversePolish, List.reverse_reverse, List.append_nil]

theorem only_eq_ok_iff {stack : List Formula} {f : Formula} : only stack = .ok f ↔ stack = [f] := by
  rcases stack with - | ⟨g, - | ⟨g', rest⟩⟩ <;> simp [only]

/-- **Assembly undoes laying flat**: a formula is assembled from its own tokens in reverse Polish
order, and from no others. -/
theorem ofReversePolish_eq_ok_iff {p : List Token} {f : Formula} :
    ofReversePolish p = .ok f ↔ p = f.toReversePolish := by
  constructor
  · intro h
    obtain ⟨stack, hstack, hf⟩ := bind_eq_ok_iff.1 h
    obtain rfl := only_eq_ok_iff.1 hf
    rw [assemble_eq_ok_iff.1 hstack, List.reverse_singleton, List.flatMap_singleton]
  · rintro rfl
    exact ofReversePolish_toReversePolish f

/-- A row of tokens stands for a formula exactly if it is a loose phrase whose reverse Polish order
is the formula laid flat. -/
theorem ofTokens_eq_ok_iff {ts : List Token} {f : Formula} :
    ofTokens ts = .ok f ↔ LoosePhrase 1 ts f.toReversePolish := by
  rw [ofTokens, bind_eq_ok_iff, ← reversePolish_eq_ok_iff]
  constructor
  · rintro ⟨p, hp, hf⟩
    rwa [← ofReversePolish_eq_ok_iff.1 hf]
  · exact fun h => ⟨_, h, ofReversePolish_toReversePolish f⟩

/-! ### Phrases -/

/-- A phrase is one of every level below its own. -/
theorem Phrase.of_le {j k : Nat} {ts : List Token} {f : Formula} (h : Phrase k ts f) (hj : 1 ≤ j)
    (hjk : j ≤ k) : Phrase j ts f := by
  induction hjk using Nat.decreasingInduction with
  | self => exact h
  | of_succ j _ ih => exact .tighter hj (ih (Nat.le_succ_of_le hj))

/-- A phrase stands for its formula. -/
theorem ofTokens_of_phrase {ts : List Token} {f : Formula} (h : Phrase 1 ts f) :
    ofTokens ts = .ok f :=
  ofTokens_eq_ok_iff.2 h.loosePhrase

/-- **Phrases are read as the grammar has them**: a phrase of the first level, of any length and
depth, stands for its formula, and so does every text that has its tokens. Two operators of the
same level group to the left. An unwritten product has the tokens of a written one, so it groups
like it. -/
theorem compile_of_phrase :
    (∀ ts f, Phrase 1 ts f →
      ofTokens ts = .ok f ∧ ∀ text, Token.scan text = .ok ts → compile text = .ok f) ∧
    (∀ op op' : Operator, op.level = op'.level → ∀ ts us vs f g h,
      Phrase op.level ts f → Phrase (op.level + 1) us g → Phrase (op.level + 1) vs h →
      ofTokens (ts ++ .operator op :: us ++ .operator op' :: vs)
        = .ok (binary (binary f op g) op' h)) ∧
    (∀ (as bs : List Char) (c d : Char),
      (isNumeralChar c = true ∧ Text.isAlphabetic d = true ∨
        Text.isAlphabetic c = true ∧ isNumeralChar d = true) →
      Token.scan (.ofList (as ++ c :: d :: bs))
        = Token.scan (.ofList (as ++ c :: '*' :: d :: bs))) := by
  refine ⟨fun ts f h => ⟨ofTokens_of_phrase h, fun text hs => ?_⟩, ?_, ?_⟩
  · exact compile_eq_ok_iff.2 ⟨ts, hs, ofTokens_of_phrase h⟩
  · intro op op' hop ts us vs f g h hf hg hh
    have hl : Phrase op'.level (ts ++ .operator op :: us) (binary f op g) :=
      hop ▸ Phrase.binary op hf hg
    have hb : Phrase op'.level (ts ++ .operator op :: us ++ .operator op' :: vs)
        (binary (binary f op g) op' h) := Phrase.binary op' hl (hop ▸ hh)
    exact ofTokens_of_phrase (hb.of_le (Nat.le_refl 1) op'.level_pos)
  · exact fun as bs c d h => scan_junction as bs h

set_option maxRecDepth 4000 in
/-- In `a-2x^2*(y+3)+c` all levels meet: the power goes first, then the products, the unwritten one
in front, and the difference before the sum. -/
theorem compile_of_phrase_mixed :
    Phrase 1 [.name 'a', .operator .subtract, .number 2.0, .operator .multiply, .name 'x',
        .operator .power, .number 2.0, .operator .multiply, .opening, .name 'y', .operator .add,
        .number 3.0, .closing, .operator .add, .name 'c']
      (binary (binary (var 'a') .subtract
        (binary (binary (const 2.0) .multiply (binary (var 'x') .power (const 2.0))) .multiply
          (binary (var 'y') .add (const 3.0)))) .add (var 'c')) ∧
    Token.scan "a-2x^2*(y+3)+c"
      = .ok [.name 'a', .operator .subtract, .number 2.0, .operator .multiply, .name 'x',
        .operator .power, .number 2.0, .operator .multiply, .opening, .name 'y', .operator .add,
        .number 3.0, .closing, .operator .add, .name 'c'] ∧
    compile "a-2x^2*(y+3)+c"
      = .ok (binary (binary (var 'a') .subtract
        (binary (binary (const 2.0) .multiply (binary (var 'x') .power (const 2.0))) .multiply
          (binary (var 'y') .add (const 3.0)))) .add (var 'c')) := by
  have atom : ∀ {k ts f}, 1 ≤ k → k ≤ atomLevel → Phrase atomLevel ts f → Phrase k ts f :=
    fun h hk hf => hf.of_le h hk
  have ha : Phrase 1 [.name 'a'] (var 'a') := atom (by decide) (by decide) (.name 'a')
  have h2 : Phrase 2 [.number 2.0] (const 2.0) := atom (by decide) (by decide) (.number 2.0)
  have hx : Phrase 3 [.name 'x'] (var 'x') := atom (by decide) (by decide) (.name 'x')
  have hy : Phrase 1 [.name 'y'] (var 'y') := atom (by decide) (by decide) (.name 'y')
  have h3 : Phrase 2 [.number 3.0] (const 3.0) := atom (by decide) (by decide) (.number 3.0)
  have hc : Phrase 2 [.name 'c'] (var 'c') := atom (by decide) (by decide) (.name 'c')
  have hpower := Phrase.binary .power hx (.number 2.0)
  have hinner := Phrase.bracketed (.binary .add hy h3)
  have hproduct := Phrase.binary .multiply (.binary .multiply h2 hpower)
    (atom (by decide) (by decide) hinner)
  have hall := Phrase.binary .add (.binary .subtract ha hproduct) hc
  exact ⟨hall, by rfl, (compile_of_phrase.1 _ _ hall).2 _ (by rfl)⟩

end Formulary.Formula
