import Formulary.Operator

/-!
# Faults

What can be wrong with a formula: with its text, or with its value under given bindings. A fault
is the cause; its wording is one function, and tells any two faults apart (`Fault.message_inj`).
-/

namespace Formulary

/-- What makes a text no formula, brackets aside. -/
inductive Malformation where
  /-- There is nothing but white space. -/
  | blank
  /-- A character has no meaning. -/
  | invalidCharacter (c : Char)
  /-- A numeral lies beyond the largest double. -/
  | outOfRange (numeral : String)
  /-- An operator lacks an operand. -/
  | missingOperand (op : Operator)
  /-- A row of letters or digits is neither a numeral nor a single letter. -/
  | unreadable (text : String)
  /-- A bracket stands where only operands and operators may. -/
  | strayBracket
  /-- There are no operands and no operators. -/
  | empty
  /-- Operands are left over. -/
  | surplusOperands
  /-- A sign stands for no operator. -/
  | unknownOperator (c : Char)
  deriving DecidableEq, Repr

/-- What can be wrong with a formula. -/
inductive Fault where
  /-- The text is no formula. -/
  | malformed (cause : Malformation)
  /-- The brackets of the text do not pair up. -/
  | mismatchedBrackets
  /-- A variable has no value. -/
  | unbound (name : Char)
  /-- A quotient has the divisor zero. -/
  | divisionByZero
  deriving DecidableEq, Repr

/-- The wording of a malformation. -/
def Malformation.message : Malformation → String
  | blank => "expression cannot be null or empty"
  | invalidCharacter c => s!"invalid character '{c}'"
  | outOfRange numeral => s!"number '{numeral}' is out of range"
  | missingOperand op => s!"insufficient operands for operator '{op.symbol}'"
  | unreadable text => s!"invalid token '{text}', expected a number or a single-letter variable"
  | strayBracket => "unexpected parenthesis in postfix sequence"
  | empty => "empty expression"
  | surplusOperands => "too many operands"
  | unknownOperator c => s!"unknown operator '{c}'"

/-- The wording of a fault. -/
def Fault.message : Fault → String
  | malformed cause => s!"Malformed expression: {cause.message}"
  | mismatchedBrackets => "Mismatched parentheses"
  | unbound name => s!"Variable '{name}' not found in provided values"
  | divisionByZero => "Division by zero"

/-! ### Faults are told apart by their wording -/

/-- None of the texts is the start of another. -/
abbrev IsPrefixFree (texts : List String) : Prop :=
  texts.Pairwise fun a b => ¬ a.toList <+: b.toList ∧ ¬ b.toList <+: a.toList

/-- No text starts with two of them. -/
theorem IsPrefixFree.index_eq {leads : List String} (h : IsPrefixFree leads) {i j : Nat}
    {a b x y : String} (ha : leads[i]? = some a) (hb : leads[j]? = some b)
    (hxy : a ++ x = b ++ y) : i = j := by
  obtain ⟨hi, rfl⟩ := List.getElem?_eq_some_iff.1 ha
  obtain ⟨hj, rfl⟩ := List.getElem?_eq_some_iff.1 hb
  have hx : leads[i].toList <+: (leads[i] ++ x).toList := ⟨x.toList, String.toList_append.symm⟩
  have hy : leads[j].toList <+: (leads[i] ++ x).toList :=
    ⟨y.toList, by rw [hxy, String.toList_append]⟩
  have hstart := List.prefix_or_prefix_of_prefix hx hy
  rcases Nat.lt_trichotomy i j with hlt | heq | hlt
  · exact absurd hstart (not_or.2 (List.pairwise_iff_getElem.1 h i j hi hj hlt))
  · exact heq
  · exact absurd hstart.symm (not_or.2 (List.pairwise_iff_getElem.1 h j i hj hi hlt))

theorem eq_of_append_append_eq {a b s t : String} (h : a ++ s ++ b = a ++ t ++ b) : s = t :=
  (String.append_right_inj a).1 ((String.append_left_inj b).1 h)

namespace Malformation

/-- The words with which the wordings start, one kind of malformation after another. -/
def leads : List String :=
  ["expression cannot be null or empty", "invalid character '", "number '",
    "insufficient operands for operator '", "invalid token '",
    "unexpected parenthesis in postfix sequence", "empty expression", "too many operands",
    "unknown operator '"]

theorem isPrefixFree_leads : IsPrefixFree leads := by
  decide

theorem exists_message_eq (m : Malformation) :
    ∃ lead rest, leads[m.ctorIdx]? = some lead ∧ m.message = lead ++ rest := by
  cases m with
  | blank | strayBracket | empty | surplusOperands => exact ⟨_, "", rfl, String.append_empty.symm⟩
  | invalidCharacter | outOfRange | missingOperand | unreadable | unknownOperator =>
    exact ⟨_, _, rfl, String.append_assoc⟩

/-- Malformations with the same wording are the same. -/
theorem message_inj {m m' : Malformation} : m.message = m'.message ↔ m = m' := by
  refine ⟨fun h => ?_, congrArg message⟩
  obtain ⟨a, x, ha, hx⟩ := m.exists_message_eq
  obtain ⟨b, y, hb, hy⟩ := m'.exists_message_eq
  -- the same words in front are of the same kind, and what it is about stands between two quotes
  have hidx := isPrefixFree_leads.index_eq ha hb (hx.symm.trans (h.trans hy))
  cases m <;> cases m' <;> cases hidx
  case invalidCharacter.invalidCharacter | unknownOperator.unknownOperator =>
    exact congrArg _ (String.singleton_inj.1 (eq_of_append_append_eq h))
  case outOfRange.outOfRange | unreadable.unreadable =>
    exact congrArg _ (eq_of_append_append_eq h)
  case missingOperand.missingOperand =>
    have hsymbol := String.singleton_inj.1 (eq_of_append_append_eq h)
    exact congrArg _ (Operator.symbol_inj.1 hsymbol)
  all_goals rfl

end Malformation

namespace Fault

/-- The words with which the wordings start, one kind of fault after another. -/
def leads : List String :=
  ["Malformed expression: ", "Mismatched parentheses", "Variable '", "Division by zero"]

theorem isPrefixFree_leads : IsPrefixFree leads := by
  decide

theorem exists_message_eq (e : Fault) :
    ∃ lead rest, leads[e.ctorIdx]? = some lead ∧ e.message = lead ++ rest := by
  cases e with
  | mismatchedBrackets | divisionByZero => exact ⟨_, "", rfl, String.append_empty.symm⟩
  | malformed => exact ⟨_, _, rfl, rfl⟩
  | unbound => exact ⟨_, _, rfl, String.append_assoc⟩

/-- **Faults with the same wording are the same.** -/
theorem message_inj {e e' : Fault} : e.message = e'.message ↔ e = e' := by
  refine ⟨fun h => ?_, congrArg message⟩
  obtain ⟨a, x, ha, hx⟩ := e.exists_message_eq
  obtain ⟨b, y, hb, hy⟩ := e'.exists_message_eq
  have hidx := isPrefixFree_leads.index_eq ha hb (hx.symm.trans (h.trans hy))
  cases e <;> cases e' <;> cases hidx
  case malformed.malformed =>
    exact congrArg _ (Malformation.message_inj.1 ((String.append_right_inj _).1 h))
  case unbound.unbound =>
    exact congrArg _ (String.singleton_inj.1 (eq_of_append_append_eq h))
  all_goals rfl

end Fault

/-- The operator with a given sign, or the fault that there is none. -/
def Operator.ofSymbol (c : Char) : Except Fault Operator :=
  match ofSymbol? c with
  | some op => .ok op
  | none => .error (.malformed (.unknownOperator c))

theorem Operator.ofSymbol_eq_ok_iff {c : Char} {op : Operator} :
    ofSymbol c = .ok op ↔ c = op.symbol := by
  rw [← ofSymbol?_eq_some_iff]
  unfold ofSymbol
  split <;> simp [*]

end Formulary
