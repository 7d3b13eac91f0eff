import Formulary.Memo
import Formulary.Proofs.Outcome

/-!
# Remembered formulas are right

A compiler that remembers is sound if every formula it keeps is the one that its text stands for.
It starts so, and making or recalling a formula keeps it so whatever is dropped to make room. While
it is sound, it gives for every text what compiling the text anew would give (`IsSound.compile`).
So after any calls it cannot be told from its answers what it remembers (`result_compile_after`).
-/

namespace Formulary

namespace Memo

/-- Every formula that is kept is the one that its text stands for. -/
def IsSound (m : Memo) : Prop :=
  ∀ text c, m.kept.peek text = some c → Formula.compile text = .ok c.formula

theorem isSound_new (capacity : Nat) (h : 0 < capacity) : (new capacity h).IsSound := by
  simp [IsSound, new]

/-- Keeping a formula under its text keeps a compiler sound. -/
theorem IsSound.put {m : Memo} (h : m.IsSound) {text : String} {c : Compiled}
    (hc : Formula.compile text = .ok c.formula) (serial : Nat) :
    IsSound ⟨m.kept.put text c, serial⟩ := by
  intro text' c' hc'
  rcases Recency.eq_or_peek_of_peek_put hc' with ⟨rfl, rfl⟩ | hc'
  · exact hc
  · exact h text' c' hc'

/-- **A sound compiler gives what compiling anew would give**, be it a formula or a fault, and it
stays sound. -/
theorem IsSound.compile {m : Memo} (h : m.IsSound) (text : String) :
    (m.compile text).1.result.map Compiled.formula = Formula.compile text ∧
      (m.compile text).2.IsSound := by
  cases hk : m.kept.peek text with
  | some c =>
    have hc := h text c hk
    rw [compile_of_some hk]
    exact ⟨hc.symm, h.put hc _⟩
  | none =>
    cases hf : Formula.compile text with
    | error e =>
      rw [compile_of_error hk hf]
      exact ⟨rfl, h⟩
    | ok f =>
      rw [compile_of_ok hk hf]
      exact ⟨rfl, h.put hf _⟩

/-- A sound compiler keeps nothing under a text without a formula. -/
theorem IsSound.peek_of_refused {m : Memo} (h : m.IsSound) {text : String} {e : Fault}
    (he : Formula.compile text = .error e) : m.kept.peek text = none := by
  cases hk : m.kept.peek text with
  | none => rfl
  | some c => cases he.symm.trans (h text c hk)

/-- Refusing a text, a sound compiler stays what it is: there was nothing to recall, so nothing was
moved to the front. -/
theorem IsSound.eq_of_compile_eq_error {m : Memo} (h : m.IsSound) {text : String} {e : Fault}
    (he : (m.compile text).1.result = .error e) : (m.compile text).2 = m := by
  have hf : Formula.compile text = .error e := by
    rw [← (h.compile text).1, he]
    rfl
  rw [compile_of_error (h.peek_of_refused hf) hf]

/-- An evaluation changes a compiler as compiling its text does, whatever comes of it. -/
theorem after_eval (m : Memo) (text : String) (b : Bindings) :
    (m.eval text b).2 = (m.compile text).2 := rfl

/-- A sound compiler evaluates a text as if it were compiled anew. -/
theorem IsSound.eval {m : Memo} (h : m.IsSound) (text : String) (b : Bindings) :
    (m.eval text b).1.result.map Prod.snd = Formula.evalText text b := by
  rw [Formula.evalText, ← (h.compile text).1]
  simp only [Memo.eval, Logged.result_bind, Formula.result_evalLogged, Logged.result_pure]
  cases (m.compile text).1.result with
  | error e => rfl
  | ok c =>
    show (c.formula.eval b >>= _).map _ = c.formula.eval b
    cases c.formula.eval b <;> rfl

/-! ### Conversations -/

theorem after_append (m : Memo) (calls calls' : List Call) :
    m.after (calls ++ calls') = (m.after calls).after calls' :=
  List.foldl_append ..

/-- Every call keeps a compiler sound. -/
theorem IsSound.step {m : Memo} (h : m.IsSound) (call : Call) : (m.step call).2.IsSound := by
  cases call with
  | compile text => exact (h.compile text).2
  | eval text b =>
    show (m.eval text b).2.IsSound
    rw [after_eval]
    exact (h.compile text).2
  | clear =>
    intro text c hc
    cases (m.kept.peek_clear text).symm.trans hc
  | capacity | isEmpty => exact h

/-- A compiler is sound after any calls. -/
theorem IsSound.after {m : Memo} (h : m.IsSound) (calls : List Call) : (m.after calls).IsSound := by
  induction calls generalizing m with
  | nil => exact h
  | cons call calls ih => exact ih (h.step call)

/-- **What is remembered does not show**: after any calls, a compiler of any capacity gives for
every text the formula or the fault that compiling the text anew would give, and the same value as
if there were nothing to remember. -/
theorem result_compile_after {capacity : Nat} (h : 0 < capacity) (calls : List Call)
    (text : String) :
    (((new capacity h).after calls).compile text).1.result.map Compiled.formula
        = Formula.compile text ∧
      ∀ b, (((new capacity h).after calls).eval text b).1.result.map Prod.snd
        = Formula.evalText text b := by
  have hsound := (isSound_new capacity h).after calls
  exact ⟨(hsound.compile text).1, fun b => hsound.eval text b⟩

/-- With room for one formula only, `2x` is forgotten, made again, forgotten with all else and
refused in between, and it stays what it was. -/
theorem result_compile_after_forgotten :
    0 < 1 ∧
      (((new 1 (by decide)).after [.compile "2x", .eval "y" ⟨[]⟩, .eval "2x" ⟨[('x', 0.5)]⟩,
          .compile "2x)", .clear, .compile "2x"]).compile "2x").1.result.map Compiled.formula
        = .ok (.binary (.const 2.0) .multiply (.var 'x')) := by
  refine ⟨by decide, (result_compile_after (by decide) _ "2x").1.trans ?_⟩
  rfl

end Memo

end Formulary
