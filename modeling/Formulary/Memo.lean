import Formulary.Formula.Compile
import Formulary.Recency

/-!
# Remembered formulas

A compiler that remembers the formulas of the texts used most recently. A remembered text yields
the very formula that was made for it before; which one that is shows in its serial number, new
for every formula made and never given twice. Texts that are no formulas are not remembered, and
asking for one leaves everything as it was.
-/

namespace Formulary

/-- A formula made by a compiler, with its serial number. -/
structure Compiled where
  /-- Which of the formulas made by the compiler this is. -/
  serial : Nat
  /-- The formula. -/
  formula : Formula
  deriving DecidableEq

/-- A compiler that remembers. -/
structure Memo where
  /-- The texts used most recently, with their formulas. -/
  kept : Recency String Compiled
  /-- The serial number of the next formula. -/
  nextSerial : Nat

namespace Memo

/-- How many texts are remembered unless something else is asked for. -/
def defaultCapacity : Nat := 128

/-- A compiler that remembers nothing yet. -/
def new (capacity : Nat) (h : 0 < capacity) : Memo := ⟨.empty capacity h, 0⟩

/-- How many texts may be remembered. -/
def capacity (m : Memo) : Nat := m.kept.capacity

/-- How many texts are remembered. -/
def size (m : Memo) : Nat := m.kept.size

/-- Whether no text is remembered. -/
def isEmpty (m : Memo) : Bool := m.kept.isEmpty

/-- The texts that are remembered, the one used last first. -/
def texts (m : Memo) : List String := m.kept.keys

/-- Forgets all texts. -/
def clear (m : Memo) : Memo := { m with kept := m.kept.clear }

/-- Remembers a newly made formula. -/
def remember (m : Memo) (text : String) (f : Formula) : Compiled × Memo :=
  (⟨m.nextSerial, f⟩, ⟨m.kept.put text ⟨m.nextSerial, f⟩, m.nextSerial + 1⟩)

/-- The formula of a text, remembered or newly made. -/
def compile (m : Memo) (text : String) : Logged Fault Compiled × Memo :=
  match m.kept.get text with
  | (some c, kept) => (⟨.ok c, [.recalled text]⟩, { m with kept := kept })
  | (none, kept) =>
    let made := Formula.compileLogged text
    let records := .unknown text :: made.records
    match made.result with
    | .error e => (⟨.error e, records⟩, { m with kept := kept })
    | .ok f =>
      let (c, m') := remember { m with kept := kept } text f
      (⟨.ok c, records⟩, m')

/-- The formula of a text and its value. -/
def eval (m : Memo) (text : String) (b : Bindings) : Logged Fault (Compiled × Float) × Memo :=
  let (made, m') := m.compile text
  (do
    let c ← made
    let x ← c.formula.evalLogged b
    pure (c, x), m')

/-! ### Conversations with a compiler -/

/-- What may be asked of a compiler. -/
inductive Call where
  /-- The formula of a text. -/
  | compile (text : String)
  /-- The value of a text. -/
  | eval (text : String) (bindings : Bindings)
  /-- The number of texts that may be remembered. -/
  | capacity
  /-- To forget all texts. -/
  | clear
  /-- Whether no text is remembered. -/
  | isEmpty
  deriving DecidableEq

/-- What a compiler answers. -/
inductive Answer where
  /-- The formula of a text. -/
  | compiled (c : Compiled)
  /-- The formula of a text and its value. -/
  | value (c : Compiled) (x : Float)
  /-- The number of texts that may be remembered. -/
  | capacity (n : Nat)
  /-- All texts are forgotten. -/
  | cleared
  /-- Whether no text is remembered. -/
  | isEmpty (b : Bool)
  deriving DecidableEq

/-- The answer to a call, and the compiler after it. -/
def step (m : Memo) : Call → Logged Fault Answer × Memo
  | .compile text =>
    let (made, m') := m.compile text
    (.compiled <$> made, m')
  | .eval text b =>
    let (valued, m') := m.eval text b
    ((fun cx => .value cx.1 cx.2) <$> valued, m')
  | .capacity => (pure (.capacity m.capacity), m)
  | .clear => (pure .cleared, m.clear)
  | .isEmpty => (pure (.isEmpty m.isEmpty), m)

/-- The compiler after some calls. -/
def after (m : Memo) (calls : List Call) : Memo := calls.foldl (fun m c => (m.step c).2) m

/-- The answers to some calls, each with the compiler after it. -/
def run (m : Memo) : List Call → List (Logged Fault Answer × Memo)
  | [] => []
  | c :: cs => m.step c :: run (m.step c).2 cs

/-- A text that is remembered is recalled, and counts as used. -/
theorem compile_of_some {m : Memo} {text : String} {c : Compiled} (h : m.kept.peek text = some c) :
    m.compile text = (⟨.ok c, [.recalled text]⟩, { m with kept := m.kept.put text c }) := by
  rw [compile, Recency.get_of_peek_eq_some h]

/-- A text that is not remembered and no formula is refused, and nothing changes. -/
theorem compile_of_error {m : Memo} {text : String} {e : Fault} (h : m.kept.peek text = none)
    (he : Formula.compile text = .error e) :
    m.compile text = (⟨.error e, .unknown text :: (Formula.compileLogged text).records⟩, m) := by
  rw [← Formula.result_compileLogged] at he
  simp only [compile, Recency.get_of_peek_eq_none h, he]

/-- A text that is not remembered is compiled and remembered. -/
theorem compile_of_ok {m : Memo} {text : String} {f : Formula} (h : m.kept.peek text = none)
    (hf : Formula.compile text = .ok f) :
    m.compile text = (⟨.ok ⟨m.nextSerial, f⟩,
      .unknown text :: (Formula.compileLogged text).records⟩, (m.remember text f).2) := by
  rw [← Formula.result_compileLogged] at hf
  simp only [compile, Recency.get_of_peek_eq_none h, hf, remember]

end Memo

end Formulary
