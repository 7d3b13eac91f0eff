import Formulary.Memo

/-!
# Catalogues of equations

A catalogue keeps texts of formulas, called equations there, under numbers. The numbers start at
one and count up with every equation that is put in; a text that is no formula is refused and takes
no number. Equations are compiled once, by a compiler that remembers, and never change.
-/

namespace Formulary

/-- An equation of a catalogue. -/
structure Equation where
  /-- Its number. -/
  id : UInt64
  /-- Its text as it was put in. -/
  text : String
  /-- The formula of its text. -/
  compiled : Compiled
  deriving DecidableEq

namespace Equation

/-- Whether two equations are the same, numbers in their formulas compared as numbers. Which of
several equal formulas they hold does not matter. -/
protected def beq (e f : Equation) : Bool :=
  decide (e.id = f.id) && e.text == f.text && e.compiled.formula == f.compiled.formula

instance : BEq Equation := ⟨Equation.beq⟩

end Equation

/-- What a catalogue may complain of. -/
inductive CatalogueFault where
  /-- A text is no formula. -/
  | invalid (cause : Fault)
  /-- There is no equation with a number. -/
  | notFound (id : UInt64)
  /-- An equation has no value. -/
  | evaluation (cause : Fault)
  deriving DecidableEq

namespace CatalogueFault

/-- The fault behind a complaint. -/
def cause? : CatalogueFault → Option Fault
  | invalid cause | evaluation cause => some cause
  | notFound _ => none

/-- The wording of a complaint. -/
def message : CatalogueFault → String
  | invalid cause => s!"Invalid equation: {cause.message}"
  | notFound id => s!"Equation with ID {id.toNat} not found"
  | evaluation cause => s!"Error evaluating equation: {cause.message}"

end CatalogueFault

/-- A catalogue of equations. -/
structure Catalogue where
  /-- The compiler of the texts. -/
  memo : Memo
  /-- The equations in the order of their numbers. -/
  equations : List Equation
  /-- The number of the next equation. -/
  nextId : UInt64

namespace Catalogue

/-- An empty catalogue, whose compiler remembers a given number of texts. -/
def new (capacity : Nat) (h : 0 < capacity) : Catalogue := ⟨.new capacity h, [], 1⟩

/-- The number of equations. -/
def size (c : Catalogue) : Nat := c.equations.length

/-- Whether there are no equations. -/
def isEmpty (c : Catalogue) : Bool := c.equations.isEmpty

/-- Puts an equation among others in the order of numbers, in place of one with the same number. -/
def insertById (e : Equation) : List Equation → List Equation
  | [] => [e]
  | f :: fs =>
    if e.id < f.id then e :: f :: fs
    else if e.id = f.id then e :: fs
    else f :: insertById e fs

/-- An equation that has been put in is found under its number, the others under theirs. -/
theorem find?_insertById (e : Equation) (es : List Equation) (id : UInt64) :
    (insertById e es).find? (fun f => f.id = id)
      = if e.id = id then some e else es.find? fun f => f.id = id := by
  induction es with
  | nil =>
    by_cases h : e.id = id <;> simp [insertById, List.find?, h]
  | cons f fs ih =>
    rw [insertById]
    by_cases h : e.id = id
    · split
      · simp [h]
      · split
        · simp [h]
        · rename_i hne
          rw [List.find?_cons_of_neg (by simpa using fun hf => hne (h.trans hf.symm)), ih,
            if_pos h]
    · rw [if_neg h] at ih ⊢
      split
      · rw [List.find?_cons_of_neg (by simpa using h)]
      · split
        · rename_i heq
          rw [List.find?_cons_of_neg (by simpa using h),
            List.find?_cons_of_neg (by simpa using heq ▸ h)]
        · rw [List.find?_cons, List.find?_cons, ih]

theorem mem_insertById {e f : Equation} {es : List Equation} (h : f ∈ insertById e es) :
    f = e ∨ f ∈ es := by
  induction es with
  | nil => exact .inl (List.mem_singleton.1 h)
  | cons g gs ih =>
    rw [insertById] at h
    split at h
    · exact List.mem_cons.1 h
    · split at h
      · exact (List.mem_cons.1 h).imp_right (List.mem_cons_of_mem _)
      · rcases List.mem_cons.1 h with rfl | h
        · exact .inr (List.mem_cons_self ..)
        · exact (ih h).imp_right (List.mem_cons_of_mem _)

/-- Putting an equation in keeps the others in the order of their numbers. -/
theorem pairwise_insertById (e : Equation) {es : List Equation}
    (h : es.Pairwise fun f g => f.id < g.id) :
    (insertById e es).Pairwise fun f g => f.id < g.id := by
  induction es with
  | nil => exact List.pairwise_singleton _ _
  | cons f fs ih =>
    obtain ⟨hf, hfs⟩ := List.pairwise_cons.1 h
    rw [insertById]
    split
    · rename_i hlt
      refine List.pairwise_cons.2 ⟨fun g hg => ?_, h⟩
      rcases List.mem_cons.1 hg with rfl | hg
      · exact hlt
      · exact UInt64.lt_trans hlt (hf g hg)
    · rename_i hnlt
      split
      · rename_i heq
        exact List.pairwise_cons.2 ⟨fun g hg => heq ▸ hf g hg, hfs⟩
      · rename_i hne
        refine List.pairwise_cons.2 ⟨fun g hg => ?_, ih hfs⟩
        rcases mem_insertById hg with rfl | hg
        · exact UInt64.lt_of_le_of_ne (UInt64.not_lt.1 hnlt) (Ne.symm hne)
        · exact hf g hg

/-- The equation with a given number. -/
def get (c : Catalogue) (id : UInt64) : Except CatalogueFault Equation :=
  match c.equations.find? fun e => e.id = id with
  | some e => .ok e
  | none => .error (.notFound id)

/-- Puts the text of a formula into the catalogue and gives it the next number. -/
def store (c : Catalogue) (text : String) : Logged CatalogueFault UInt64 × Catalogue :=
  let (made, memo) := c.memo.compile text
  match made.result with
  | .error e => (⟨.error (.invalid e), made.records⟩, { c with memo })
  | .ok compiled =>
    (⟨.ok c.nextId, made.records ++ [.stored c.nextId text]⟩,
      ⟨memo, insertById ⟨c.nextId, text, compiled⟩ c.equations, c.nextId + 1⟩)

/-- The value of the equation with a given number. -/
def eval (c : Catalogue) (id : UInt64) (b : Bindings) : Logged CatalogueFault Float := do
  let e ← .quiet (c.get id)
  .write (.evaluating id b)
  (e.compiled.formula.evalLogged b).mapError .evaluation

/-- Whether the equations with two given numbers are the same. -/
def same (c : Catalogue) (i j : UInt64) : Except CatalogueFault Bool := do
  let e ← c.get i
  let f ← c.get j
  pure (e == f)

/-! ### Conversations with a catalogue -/

/-- What may be asked of a catalogue. -/
inductive Call where
  /-- To put in the text of a formula. -/
  | store (text : String)
  /-- The equation with a number. -/
  | get (id : UInt64)
  /-- All equations. -/
  | all
  /-- The value of the equation with a number. -/
  | eval (id : UInt64) (bindings : Bindings)
  /-- Whether the equations with two numbers are the same. -/
  | same (i j : UInt64)
  /-- Whether there are no equations. -/
  | isEmpty
  deriving DecidableEq

/-- What a catalogue answers. -/
inductive Answer where
  /-- The number that a new equation has got. -/
  | stored (id : UInt64)
  /-- An equation. -/
  | equation (e : Equation)
  /-- All equations in the order of their numbers. -/
  | all (es : List Equation)
  /-- The value of an equation. -/
  | value (x : Float)
  /-- Whether two equations are the same. -/
  | same (b : Bool)
  /-- Whether there are no equations. -/
  | isEmpty (b : Bool)
  deriving DecidableEq

/-- The answer to a call, and the catalogue after it. -/
def step (c : Catalogue) : Call → Logged CatalogueFault Answer × Catalogue
  | .store text =>
    let (stored, c') := c.store text
    (.stored <$> stored, c')
  | .get id => (.equation <$> .quiet (c.get id), c)
  | .all => (pure (.all c.equations), c)
  | .eval id b => (.value <$> c.eval id b, c)
  | .same i j => (.same <$> .quiet (c.same i j), c)
  | .isEmpty => (pure (.isEmpty c.isEmpty), c)

/-- The catalogue after some calls. -/
def after (c : Catalogue) (calls : List Call) : Catalogue :=
  calls.foldl (fun c call => (c.step call).2) c

/-- The answers to some calls, each with the catalogue after it. -/
def run (c : Catalogue) : List Call → List (Logged CatalogueFault Answer × Catalogue)
  | [] => []
  | call :: calls => c.step call :: run (c.step call).2 calls

theorem get_eq_ok_iff {c : Catalogue} {id : UInt64} {e : Equation} :
    c.get id = .ok e ↔ c.equations.find? (fun e => e.id = id) = some e := by
  unfold get
  split <;> simp [*]

end Catalogue

end Formulary
