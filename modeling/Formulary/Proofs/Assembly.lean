import Formulary.Proofs.Contents

/-!
# Assembly and laying flat

Assembly puts a formula on the stack for every number and name and takes one away for every
operator, so its height is told by counting (`length_of_assemble`). What is on the stack is told by
the row that has been used (`assemble_eq_ok_iff`), and with one formula on it this says that
assembly and laying flat undo each other (`ofReversePolish_inverse`).

Since an operator fails exactly where the stack is too low, counting also tells how a row comes out:
it fails for the first token that cannot be used where it stands (`assemble_of_misuse?`), and
without such a token it leaves as many formulas as its depth says (`ofReversePolish_outcome`).
-/

namespace Formulary

/-- How many more numbers and names than operators there are in a row of tokens. -/
def depth (ts : List Token) : Int :=
  (ts.countP Token.isLeaf : Int) - (ts.filterMap Token.operator?).length

@[simp] theorem depth_nil : depth [] = 0 := rfl

theorem depth_append (ts us : List Token) : depth (ts ++ us) = depth ts + depth us := by
  unfold depth
  rw [List.countP_append, List.filterMap_append, List.length_append]
  omega

theorem depth_cons (t : Token) (ts : List Token) : depth (t :: ts) = depth [t] + depth ts :=
  depth_append [t] ts

/-- The order of the tokens does not matter. -/
theorem depth_perm {ts us : List Token} (h : ts.Perm us) : depth ts = depth us := by
  rw [depth, depth, h.countP_eq, (h.filterMap _).length_eq]

/-- Brackets do not count. -/
theorem depth_filter_isBracket (ts : List Token) :
    depth (ts.filter fun t => !t.isBracket) = depth ts := by
  rw [depth, depth, Token.filterMap_operator?_filter, List.countP_filter]
  congr 2
  refine List.countP_congr fun t _ => ?_
  cases t <;> simp [Token.isLeaf, Token.isBracket]

namespace Formula

/-! ### The height of the stack -/

/-- A number or a name makes the stack higher by one, an operator lower. -/
theorem length_of_assembleStep {stack stack' : List Formula} {t : Token}
    (h : assembleStep stack t = .ok stack') : (stack'.length : Int) = stack.length + depth [t] := by
  cases t with
  | number | name =>
    cases h
    rfl
  | operator op =>
    rcases stack with - | ⟨r, - | ⟨l, rest⟩⟩
    · cases h
    · cases h
    · cases h
      show ((rest.length + 1 : Nat) : Int) = ((rest.length + 2 : Nat) : Int) + -1
      omega
  | opening | closing | unreadable => cases h

/-- **The height of the stack** is told by the tokens that have been used. -/
theorem length_of_assemble {ts : List Token} {stack stack' : List Formula}
    (h : assemble stack ts = .ok stack') : (stack'.length : Int) = stack.length + depth ts := by
  induction ts generalizing stack with
  | nil =>
    cases h
    rw [depth_nil, Int.add_zero]
  | cons t ts ih =>
    rw [assemble_cons, bind_eq_ok_iff] at h
    obtain ⟨next, hstep, h⟩ := h
    rw [ih h, length_of_assembleStep hstep, depth_cons t ts, Int.add_assoc]

/-- A formula has one leaf more than it has operators. -/
theorem depth_toReversePolish (f : Formula) : depth f.toReversePolish = 1 := by
  have h := length_of_assemble (f.assemble_toReversePolish [])
  rw [List.length_nil, List.length_singleton] at h
  omega

/-- So has every row that stands for one. -/
theorem depth_of_ofTokens {ts : List Token} {f : Formula} (h : ofTokens ts = .ok f) :
    depth ts = 1 := by
  rw [← depth_filter_isBracket, ← depth_perm (ofTokens_eq_ok_iff.1 h).perm, depth_toReversePolish]

/-! ### The inverse -/

/-- **Assembly and laying flat undo each other**: a formula is assembled from a row exactly if the
row is the formula laid flat. So there is one row for each formula, and two rows never give the
same one. The operands of the row are the leaves of the formula from left to right, and its
operators are those of the formula. -/
theorem ofReversePolish_inverse :
    (∀ p f, ofReversePolish p = .ok f ↔ p = f.toReversePolish) ∧
    (∀ f, ∃! p, ofReversePolish p = .ok f) ∧
    (∀ p q f, ofReversePolish p = .ok f → ofReversePolish q = .ok f → p = q) ∧
    ∀ p f, ofReversePolish p = .ok f →
      p.filter Token.isOperand = f.leaves ∧ (p.filterMap Token.operator?).Perm f.operators := by
  refine ⟨fun p f => ofReversePolish_eq_ok_iff, ?_, ?_, ?_⟩
  · intro f
    exact ⟨_, ofReversePolish_toReversePolish f, fun p h => ofReversePolish_eq_ok_iff.1 h⟩
  · intro p q f hp hq
    rw [ofReversePolish_eq_ok_iff.1 hp, ofReversePolish_eq_ok_iff.1 hq]
  · intro p f h
    rw [ofReversePolish_eq_ok_iff.1 h]
    exact ⟨f.filter_isOperand_toReversePolish, f.operators_perm.symm⟩

/-- The operands of a difference are not exchanged. -/
theorem ofReversePolish_inverse_difference :
    ofReversePolish [.name 'x', .number 2.0, .operator .subtract]
      = .ok (binary (var 'x') .subtract (const 2.0)) ∧
    (binary (var 'x') .subtract (const 2.0)).leaves = [.name 'x', .number 2.0] ∧
    [Operator.subtract].Perm (binary (var 'x') .subtract (const 2.0)).operators := by
  have h := (ofReversePolish_inverse.1 [.name 'x', .number 2.0, .operator .subtract]
    (binary (var 'x') .subtract (const 2.0))).2 rfl
  obtain ⟨hleaves, hops⟩ := ofReversePolish_inverse.2.2.2 _ _ h
  exact ⟨h, hleaves.symm, hops⟩

end Formula

/-! ### Tokens that cannot be used -/

namespace Token

/-- What is wrong with a token that comes when `d` formulas are on the stack: an operator needs two
of them, and an unreadable token or a bracket can never be used. -/
def misuse? (d : Int) : Token → Option Malformation
  | number _ | name _ => none
  | operator op => if d < 2 then some (.missingOperand op) else none
  | unreadable text => some (.unreadable text)
  | opening | closing => some .strayBracket

/-- The words in which a token is refused, if it is. -/
def refusal : Token → String
  | number _ | name _ => ""
  | operator op => s!"insufficient operands for operator '{op.symbol}'"
  | unreadable text => s!"invalid token '{text}', expected a number or a single-letter variable"
  | opening | closing => "unexpected parenthesis in postfix sequence"

theorem message_of_misuse? {d : Int} {t : Token} {m : Malformation} (h : t.misuse? d = some m) :
    m.message = t.refusal := by
  cases t with
  | number | name => cases h
  | operator op =>
    rw [misuse?] at h
    split at h
    · cases h
      rfl
    · cases h
  | unreadable | opening | closing =>
    cases h
    rfl

end Token

/-- Nothing is wrong with any token of a row, if it comes when as many formulas are on the stack as
the tokens in front of it are deep. -/
def Usable (ts : List Token) : Prop :=
  ∀ (i : Nat) (t : Token), ts[i]? = some t → t.misuse? (depth (ts.take i)) = none

instance (ts : List Token) : Decidable (Usable ts) :=
  decidable_of_iff (∀ i < ts.length, ∀ t ∈ ts[i]?, t.misuse? (depth (ts.take i)) = none)
    ⟨fun h i t ht => h i (List.getElem?_eq_some_iff.1 ht).1 t ht, fun h i _ t ht => h i t ht⟩

theorem usable_nil : Usable [] := by
  intro i t h
  cases h

theorem usable_concat_iff {ts : List Token} {t : Token} :
    Usable (ts ++ [t]) ↔ Usable ts ∧ t.misuse? (depth ts) = none := by
  have hfront : ∀ {i u}, ts[i]? = some u →
      (ts ++ [t])[i]? = some u ∧ (ts ++ [t]).take i = ts.take i := by
    intro i u hu
    obtain ⟨hi, -⟩ := List.getElem?_eq_some_iff.1 hu
    rw [List.getElem?_append_left hi]
    exact ⟨hu, List.take_append_of_le_length hi.le⟩
  constructor
  · intro h
    constructor
    · intro i u hu
      obtain ⟨hu', htake⟩ := hfront hu
      rw [← htake]
      exact h i u hu'
    · simpa using h ts.length t List.getElem?_concat_length
  · rintro ⟨hts, ht⟩ i u hu
    rw [List.getElem?_append] at hu
    split at hu
    · rw [(hfront hu).2]
      exact hts i u hu
    · rename_i hi
      rw [List.getElem?_singleton] at hu
      split at hu
      · rename_i h0
        cases hu
        obtain rfl : i = ts.length := by omega
        rwa [List.take_left]
      · cases hu

/-- If something is wrong with a row, there is a first token that is wrong. -/
theorem exists_of_not_usable {ts : List Token} (h : ¬ Usable ts) :
    ∃ i t m, ts[i]? = some t ∧ Usable (ts.take i) ∧ t.misuse? (depth (ts.take i)) = some m := by
  induction ts using List.reverseRecOn with
  | nil => exact absurd usable_nil h
  | append_singleton ts t ih =>
    by_cases hts : Usable ts
    · obtain ⟨m, hm⟩ : ∃ m, t.misuse? (depth ts) = some m := by
        rw [← Option.ne_none_iff_exists']
        exact fun ht => h (usable_concat_iff.2 ⟨hts, ht⟩)
      refine ⟨ts.length, t, m, List.getElem?_concat_length, ?_⟩
      rw [List.take_left]
      exact ⟨hts, hm⟩
    · obtain ⟨i, u, m, hu, hus, hm⟩ := ih hts
      obtain ⟨hi, -⟩ := List.getElem?_eq_some_iff.1 hu
      refine ⟨i, u, m, ?_, ?_⟩
      · rwa [List.getElem?_append_left hi]
      · rw [List.take_append_of_le_length hi.le]
        exact ⟨hus, hm⟩

namespace Formula

/-- A token fails exactly if something is wrong with it, and for that. -/
theorem assembleStep_eq_error_iff {stack : List Formula} {t : Token} {e : Fault} :
    assembleStep stack t = .error e ↔ ∃ m, t.misuse? stack.length = some m ∧ e = .malformed m := by
  cases t with
  | number x => simp [assembleStep, Token.misuse?]
  | name c => simp [assembleStep, Token.misuse?]
  | operator op =>
    rcases stack with - | ⟨r, - | ⟨l, rest⟩⟩
    · simp [assembleStep, Token.misuse?, eq_comm]
    · simp [assembleStep, Token.misuse?, eq_comm]
    · have henough : ¬ ((rest.length : Int) + 1 + 1 < 2) := by omega
      simp [assembleStep, Token.misuse?, henough]
  | unreadable text => simp [assembleStep, Token.misuse?, eq_comm]
  | opening | closing => simp [assembleStep, Token.misuse?, eq_comm]

theorem length_of_assemble_nil {ts : List Token} {stack : List Formula}
    (h : assemble [] ts = .ok stack) : (stack.length : Int) = depth ts := by
  simpa using length_of_assemble h

/-- Tokens with which nothing is wrong are all used. -/
theorem exists_assemble_of_usable {ts : List Token} (h : Usable ts) :
    ∃ stack, assemble [] ts = .ok stack := by
  induction ts using List.reverseRecOn with
  | nil => exact ⟨[], rfl⟩
  | append_singleton ts t ih =>
    obtain ⟨hts, ht⟩ := usable_concat_iff.1 h
    obtain ⟨stack, hstack⟩ := ih hts
    rw [← length_of_assemble_nil hstack] at ht
    rw [assemble_concat, hstack]
    cases hstep : assembleStep stack t with
    | ok next => exact ⟨next, hstep⟩
    | error e =>
      obtain ⟨m, hm, -⟩ := assembleStep_eq_error_iff.1 hstep
      cases ht.symm.trans hm

/-- A row fails for the first token with which something is wrong. -/
theorem assemble_of_misuse? {ts : List Token} {i : Nat} {t : Token} {m : Malformation}
    (ht : ts[i]? = some t) (hfront : Usable (ts.take i))
    (hm : t.misuse? (depth (ts.take i)) = some m) : assemble [] ts = .error (.malformed m) := by
  obtain ⟨hi, rfl⟩ := List.getElem?_eq_some_iff.1 ht
  obtain ⟨stack, hstack⟩ := exists_assemble_of_usable hfront
  rw [← length_of_assemble_nil hstack] at hm
  have hstep := assembleStep_eq_error_iff.2 ⟨m, hm, rfl⟩
  calc
    assemble [] ts
        = assemble [] (ts.take i) >>= fun s => assemble s (ts[i] :: ts.drop (i + 1)) := by
          rw [← assemble_append, List.getElem_cons_drop, List.take_append_drop]
    _ = assembleStep stack ts[i] >>= fun s => assemble s (ts.drop (i + 1)) := by
          rw [hstack]
          rfl
    _ = .error (.malformed m) := by
          rw [hstep]
          rfl

/-- A row with which nothing is wrong leaves as many formulas as it is deep, and none only if it has
no tokens. -/
theorem ofReversePolish_of_usable {p : List Token} (h : Usable p) :
    ∃ stack, ofReversePolish p = only stack ∧ (stack.length : Int) = depth p ∧
      (stack = [] ↔ p = []) := by
  obtain ⟨stack, hstack⟩ := exists_assemble_of_usable h
  refine ⟨stack, ?_, length_of_assemble_nil hstack, ?_⟩
  · rw [ofReversePolish, hstack]
    rfl
  · constructor
    · rintro rfl
      exact assemble_eq_ok_iff.1 hstack
    · rintro rfl
      exact (Except.ok.inj hstack).symm

/-- **The outcome of assembly is told by counting.** A row fails for the first of its tokens that
cannot be used where it stands: one that is unreadable, a bracket, or an operator with less than two
formulas left by the tokens in front of it. If there is none, then the row is empty, or it stands
for a formula if one is left, or it has surplus operands if more are left; in a row that is not
empty, at least one is left. Each of these faults has a wording of its own. -/
theorem ofReversePolish_outcome (p : List Token) :
    (∀ i t m, p[i]? = some t → Usable (p.take i) → t.misuse? (depth (p.take i)) = some m →
      ofReversePolish p = .error (.malformed m) ∧ m.message = t.refusal) ∧
    (¬ Usable p → ∃ i t m, p[i]? = some t ∧ Usable (p.take i) ∧
      t.misuse? (depth (p.take i)) = some m) ∧
    (Usable p →
      (ofReversePolish p = .error (.malformed .empty) ↔ p = []) ∧
      ((∃ f, ofReversePolish p = .ok f) ↔ depth p = 1) ∧
      (ofReversePolish p = .error (.malformed .surplusOperands) ↔ 2 ≤ depth p) ∧
      (p ≠ [] → 1 ≤ depth p)) ∧
    Malformation.empty.message = "empty expression" ∧
    Malformation.surplusOperands.message = "too many operands" := by
  refine ⟨fun i t m ht hfront hm => ⟨?_, Token.message_of_misuse? hm⟩, exists_of_not_usable,
    fun hp => ?_, rfl, rfl⟩
  · rw [ofReversePolish, assemble_of_misuse? ht hfront hm]
    rfl
  · obtain ⟨stack, hall, hheight, hnil⟩ := ofReversePolish_of_usable hp
    rw [hall, ne_eq, ← hnil, ← hheight]
    rcases stack with - | ⟨f, - | ⟨g, rest⟩⟩
    · simp [only]
    · simp [only]
    · simp [only]
      omega

/-- In `x + ) xy` the operator comes too early, so neither the bracket nor the unreadable word
behind it is reported. In `x y z *` nothing is wrong, and two formulas are left. -/
theorem ofReversePolish_outcome_early :
    [Token.name 'x', .operator .add, .closing, .unreadable "xy"][1]? = some (.operator .add) ∧
    Usable ([Token.name 'x', .operator .add, .closing, .unreadable "xy"].take 1) ∧
    (Token.operator .add).misuse?
        (depth ([Token.name 'x', .operator .add, .closing, .unreadable "xy"].take 1))
      = some (.missingOperand .add) ∧
    ofReversePolish [.name 'x', .operator .add, .closing, .unreadable "xy"]
      = .error (.malformed (.missingOperand .add)) ∧
    (Malformation.missingOperand .add).message = "insufficient operands for operator '+'" ∧
    Usable [.name 'x', .name 'y', .name 'z', .operator .multiply] ∧
    ofReversePolish [.name 'x', .name 'y', .name 'z', .operator .multiply]
      = .error (.malformed .surplusOperands) := by
  have ht : [Token.name 'x', .operator .add, .closing, .unreadable "xy"][1]?
      = some (.operator .add) := by rfl
  have hfront : Usable ([Token.name 'x', .operator .add, .closing, .unreadable "xy"].take 1) := by
    decide
  have hm : (Token.operator .add).misuse?
      (depth ([Token.name 'x', .operator .add, .closing, .unreadable "xy"].take 1))
        = some (.missingOperand .add) := by rfl
  have hall : Usable [.name 'x', .name 'y', .name 'z', .operator .multiply] := by decide
  have hdepth : 2 ≤ depth [.name 'x', .name 'y', .name 'z', .operator .multiply] := by decide
  obtain ⟨hfault, hmessage⟩ := (ofReversePolish_outcome _).1 1 _ _ ht hfront hm
  obtain ⟨-, -, hsurplus, -⟩ := (ofReversePolish_outcome _).2.2.1 hall
  exact ⟨ht, hfront, hm, hfault, hmessage.trans (by rfl), hall, hsurplus.2 hdepth⟩

end Formula

end Formulary
