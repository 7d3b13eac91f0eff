import Formulary.Token

/-!
# Formulas

A formula is a tree of binary operators over numbers and one-letter variables. It can be written
out with a pair of brackets around every operation, and laid flat in reverse Polish order.

As for tokens, `=` is identity and `==` compares numbers as numbers.
-/

namespace Formulary

/-- A formula. -/
inductive Formula where
  /-- A number. -/
  | const (value : Float)
  /-- A variable. -/
  | var (name : Char)
  /-- An operation on two formulas. -/
  | binary (left : Formula) (op : Operator) (right : Formula)
  deriving DecidableEq, Inhabited

namespace Formula

/-- Whether two formulas are the same, numbers compared as numbers. -/
protected def beq : Formula → Formula → Bool
  | const x, const y => x == y
  | var c, var d => c == d
  | binary l p r, binary l' q r' => l.beq l' && decide (p = q) && r.beq r'
  | _, _ => false

instance : BEq Formula := ⟨Formula.beq⟩

/-- A formula in full brackets. -/
def render : Formula → String
  | const x => Layout.plain.write x
  | var c => c.toString
  | binary l op r => "(" ++ l.render ++ " " ++ op.symbol.toString ++ " " ++ r.render ++ ")"

/-- The numbers and variables of a formula from left to right, as tokens. -/
def leaves : Formula → List Token
  | const x => [.number x]
  | var c => [.name c]
  | binary l _ r => l.leaves ++ r.leaves

/-- The operators of a formula from left to right. -/
def operators : Formula → List Operator
  | const _ | var _ => []
  | binary l op r => l.operators ++ op :: r.operators

/-- The variables of a formula from left to right, as often as they occur. -/
def occurrences : Formula → List Char
  | const _ => []
  | var c => [c]
  | binary l _ r => l.occurrences ++ r.occurrences

/-- Puts the variables of a formula behind some names, each one that is not among them yet. -/
def addVars (names : List Char) : Formula → List Char
  | const _ => names
  | var c => if names.contains c then names else names ++ [c]
  | binary l _ r => r.addVars (l.addVars names)

/-- The different variables of a formula in the order of their first occurrence. -/
def vars (f : Formula) : List Char := f.addVars []

/-- A formula laid flat: each operator behind its two operands. -/
def toReversePolish : Formula → List Token
  | const x => [.number x]
  | var c => [.name c]
  | binary l op r => l.toReversePolish ++ r.toReversePolish ++ [.operator op]

/-- A formula behind some characters has the names that the characters and its variables have. -/
theorem addVars_eraseDups (cs : List Char) (f : Formula) :
    f.addVars cs.eraseDups = (cs ++ f.occurrences).eraseDups := by
  induction f generalizing cs with
  | const x => rw [addVars, occurrences, List.append_nil]
  | var c =>
    rw [addVars, occurrences, List.eraseDups_append]
    by_cases hc : c ∈ cs
    · have hmem : cs.eraseDups.contains c = true :=
        List.contains_iff_mem.2 (List.mem_eraseDups.2 hc)
      have hgone : [c].removeAll cs = [] := by simp [List.removeAll, hc]
      rw [if_pos hmem, hgone]
      exact (List.append_nil _).symm
    · have hnew : ¬ cs.eraseDups.contains c = true := by simpa using hc
      have hstay : [c].removeAll cs = [c] := by simp [List.removeAll, hc]
      rw [if_neg hnew, hstay]
      rfl
  | binary l op r ihl ihr => rw [addVars, ihl, ihr, occurrences, List.append_assoc]

/-- The variables of a formula are what occurs in it, without repetitions. -/
theorem vars_eq_eraseDups (f : Formula) : f.vars = f.occurrences.eraseDups :=
  f.addVars_eraseDups []

/-- No name is added twice. -/
theorem nodup_addVars {names : List Char} (h : names.Nodup) (f : Formula) :
    (f.addVars names).Nodup := by
  induction f generalizing names with
  | const x => exact h
  | var c =>
    rw [addVars]
    split
    · exact h
    · rename_i hc
      rw [List.contains_iff_mem] at hc
      refine List.nodup_append.2 ⟨h, by simp, ?_⟩
      rintro d hd e he rfl
      exact hc (List.mem_singleton.1 he ▸ hd)
  | binary l op r ihl ihr => exact ihr (ihl h)

theorem mem_vars {f : Formula} {c : Char} : c ∈ f.vars ↔ c ∈ f.occurrences := by
  rw [vars_eq_eraseDups, List.mem_eraseDups]

/-- The characters of an operation in full brackets. -/
theorem toList_render_binary (l r : Formula) (op : Operator) :
    (binary l op r).render.toList
      = '(' :: l.render.toList ++ [' ', op.symbol, ' '] ++ r.render.toList ++ [')'] := by
  simp [render, Char.toString]

end Formula

end Formulary
