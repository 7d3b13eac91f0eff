import Formulary.Catalogue
import Mathlib.Data.List.Induction

/-!
# Ledgers

A ledger is what a catalogue of equations is meant to be: a list of texts, to which texts of
formulas are added at the end. It remembers nothing else. The number of a text is its place in the
list, counted from one, and whatever is asked about a text is worked out from the text anew.
-/

namespace Formulary

open Catalogue (Call)

/-- What is told of an equation. -/
structure Entry where
  /-- Its number. -/
  number : Nat
  /-- Its text as it was put in. -/
  text : String
  /-- What its text stands for. -/
  reading : Except Fault Formula

/-- What is answered. -/
inductive Reply where
  /-- The number that a new equation has got. -/
  | stored (number : Nat)
  /-- An equation. -/
  | entry (e : Entry)
  /-- All equations. -/
  | all (es : List Entry)
  /-- The value of an equation. -/
  | value (x : Float)
  /-- Whether two equations are the same. -/
  | same (b : Bool)
  /-- Whether there are no equations. -/
  | isEmpty (b : Bool)

/-- The texts of formulas in the order in which they were put in. -/
structure Ledger where
  /-- The texts. -/
  texts : List String

namespace Ledger

/-- A ledger without texts. -/
def empty : Ledger := ⟨[]⟩

/-- The number of texts. -/
def size (l : Ledger) : Nat := l.texts.length

/-- What is told of all texts. -/
def entries (l : Ledger) : List Entry :=
  l.texts.mapIdx fun i text => ⟨i + 1, text, Formula.compile text⟩

/-- What is told of the text with a number, if there is one. -/
def entryAt? (l : Ledger) : Nat → Option Entry
  | 0 => none
  | i + 1 => l.texts[i]?.map fun text => ⟨i + 1, text, Formula.compile text⟩

/-- What is told of the text with a number. -/
def get (l : Ledger) (id : UInt64) : Except CatalogueFault Entry :=
  match l.entryAt? id.toNat with
  | some e => .ok e
  | none => .error (.notFound id)

/-- Adds the text of a formula at the end. Other texts are refused. -/
def store (l : Ledger) (text : String) : Except CatalogueFault Nat × Ledger :=
  match Formula.compile text with
  | .ok _ => (.ok (l.size + 1), ⟨l.texts ++ [text]⟩)
  | .error e => (.error (.invalid e), l)

/-- The value of the text with a number. -/
def eval (l : Ledger) (id : UInt64) (b : Bindings) : Except CatalogueFault Float := do
  let e ← l.get id
  (Formula.evalText e.text b).mapError .evaluation

/-- Whether two numbers are those of the same text. -/
def same (l : Ledger) (i j : UInt64) : Except CatalogueFault Bool := do
  let _ ← l.get i
  let _ ← l.get j
  pure (decide (i = j))

/-- The reply to a call, and the ledger after it. -/
def step (l : Ledger) : Call → Except CatalogueFault Reply × Ledger
  | .store text => ((l.store text).1.map .stored, (l.store text).2)
  | .get id => ((l.get id).map .entry, l)
  | .all => (.ok (.all l.entries), l)
  | .eval id b => ((l.eval id b).map .value, l)
  | .same i j => ((l.same i j).map .same, l)
  | .isEmpty => (.ok (.isEmpty (decide (l.size = 0))), l)

/-- The ledger after some calls. -/
def after (l : Ledger) (calls : List Call) : Ledger :=
  calls.foldl (fun l call => (l.step call).2) l

/-- The replies to some calls. -/
def run (l : Ledger) : List Call → List (Except CatalogueFault Reply)
  | [] => []
  | call :: calls => (l.step call).1 :: run (l.step call).2 calls

end Ledger

/-- Whether a call puts in the text of a formula. -/
def Catalogue.Call.stores : Call → Bool
  | .store text => (Formula.compile text).isOk
  | .get _ | .all | .eval _ _ | .same _ _ | .isEmpty => false

namespace Ledger

theorem store_of_ok {l : Ledger} {text : String} {f : Formula} (h : Formula.compile text = .ok f) :
    l.store text = (.ok (l.size + 1), ⟨l.texts ++ [text]⟩) := by
  rw [store, h]

theorem store_of_error {l : Ledger} {text : String} {e : Fault}
    (h : Formula.compile text = .error e) : l.store text = (.error (.invalid e), l) := by
  rw [store, h]

/-- A call makes a ledger longer if it puts in the text of a formula. -/
theorem size_step (l : Ledger) (call : Call) :
    (l.step call).2.size = l.size + if call.stores then 1 else 0 := by
  cases call with
  | store text =>
    cases h : Formula.compile text with
    | ok f => simp [step, store_of_ok h, size, Call.stores, h, Except.isOk, Except.toBool]
    | error e => simp [step, store_of_error h, Call.stores, h, Except.isOk, Except.toBool]
  | get | all | eval | same | isEmpty => rfl

theorem size_after (l : Ledger) (calls : List Call) :
    (l.after calls).size = l.size + calls.countP Call.stores := by
  induction calls generalizing l with
  | nil => rfl
  | cons call calls ih =>
    have h := ih (l.step call).2
    rw [size_step] at h
    rw [List.countP_cons]
    exact h.trans (by omega)

theorem size_after_empty (calls : List Call) :
    (empty.after calls).size = calls.countP Call.stores := by
  rw [size_after]
  exact Nat.zero_add _

/-- A text that is put in gets the next number. -/
theorem entries_append (texts : List String) (text : String) :
    (Ledger.mk (texts ++ [text])).entries
      = (Ledger.mk texts).entries ++ [⟨texts.length + 1, text, Formula.compile text⟩] :=
  List.mapIdx_concat

theorem mem_entries {l : Ledger} {e : Entry} (h : e ∈ l.entries) :
    e.number ≤ l.size ∧ e.reading = Formula.compile e.text := by
  obtain ⟨i, hi, rfl⟩ := List.mem_mapIdx.1 h
  exact ⟨hi, rfl⟩

/-- The texts are numbered in their order, from one on. -/
theorem find?_entries (l : Ledger) (n : Nat) :
    l.entries.find? (fun e => e.number = n) = l.entryAt? n := by
  obtain ⟨texts⟩ := l
  induction texts using List.reverseRecOn with
  | nil => cases n <;> rfl
  | append_singleton texts text ih =>
    rw [entries_append, List.find?_append, ih]
    cases n with
    | zero => rfl
    | succ i =>
      simp only [entryAt?]
      rcases Nat.lt_trichotomy i texts.length with hi | rfl | hi
      · rw [List.getElem?_append_left hi, List.getElem?_eq_getElem hi]
        rfl
      · simp
      · have hi' : (texts ++ [text]).length ≤ i := by
          simpa using Nat.succ_le_of_lt hi
        rw [List.getElem?_eq_none (Nat.le_of_lt hi), List.getElem?_eq_none hi']
        simp only [Option.map_none, Option.none_or]
        exact List.find?_cons_of_neg (by simpa using Nat.ne_of_lt hi)

end Ledger

end Formulary
