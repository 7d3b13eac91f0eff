import Formulary.Number.Layout
import Formulary.Text.Quoted

/-!
# Bindings

Values for variables. A variable has at most one value, and a value given later takes the place of
the one before.
-/

namespace Formulary

/-- Values for variables. -/
structure Bindings where
  /-- The variables with their values. -/
  pairs : List (Char × Float)
  deriving DecidableEq

namespace Bindings

/-- No variable has a value. -/
def empty : Bindings := ⟨[]⟩

instance : EmptyCollection Bindings := ⟨empty⟩

/-- The value of a variable. -/
def get? (b : Bindings) (c : Char) : Option Float := b.pairs.lookup c

/-- Gives a variable a value. -/
def insert (b : Bindings) (c : Char) (x : Float) : Bindings :=
  ⟨(c, x) :: b.pairs.filter fun p => p.1 != c⟩

/-- The bindings that are given one after another. -/
def ofList (ps : List (Char × Float)) : Bindings :=
  ps.foldl (fun b p => b.insert p.1 p.2) empty

/-- Bindings as the journal shows them. -/
def shown (b : Bindings) : String :=
  let pair (p : Char × Float) := Text.quotedChar p.1 ++ ": " ++ Layout.marked.write p.2
  "\x7b" ++ String.intercalate ", " (b.pairs.map pair) ++ "\x7d"

@[simp] theorem get?_empty (c : Char) : empty.get? c = none := rfl

/-- Dropping the pairs of one variable leaves the values of the others. -/
theorem lookup_filter_of_ne {c d : Char} (h : d ≠ c) (ps : List (Char × Float)) :
    (ps.filter fun p => p.1 != c).lookup d = ps.lookup d := by
  induction ps with
  | nil => rfl
  | cons p ps ih =>
    obtain ⟨e, y⟩ := p
    rw [List.filter_cons, List.lookup_cons]
    by_cases hc : e = c
    · subst hc
      simp [beq_eq_false_iff_ne.2 h, ih]
    · simp [hc, List.lookup_cons, ih]

theorem get?_insert (b : Bindings) (c d : Char) (x : Float) :
    (b.insert c x).get? d = if d = c then some x else b.get? d := by
  unfold get? insert
  rw [List.lookup_cons]
  by_cases h : d = c
  · simp [h]
  · simp [h, beq_eq_false_iff_ne.2 h, lookup_filter_of_ne h]

end Bindings

end Formulary
