import Formulary.Formula.StackValue
import Formulary.Proofs.Contents
import Formulary.Proofs.Value
import Mathlib.Data.List.Forall2

/-!
# Evaluation on a stack

The value of a formula is what its tokens in reverse Polish order leave on a stack of numbers, and
on the way the same operations are carried out (`stackValue_toReversePolish`). A run on the stack
goes on until the first token that fails, and what it has recorded by then is one operation for each
operator in front of that token (`stackValue_cases`). So the fault of a formula is that of the first
token that fails, and its trace stops there (`evalLogged_eq_stackValue`).
-/

namespace Formulary

/-- The record of an operation that had a result: a trace of the two numbers with the operator
between them, and of the result. -/
def Operator.Records (op : Operator) (r : Record) : Prop :=
  ∃ x y z, op.apply x y = .ok z ∧ r = .applied x op y z ∧ r.level = "TRACE" ∧
    r.message = s!"{Layout.plain.write x} {op.symbol} {Layout.plain.write y} = {Layout.plain.write z}"

/-- The records `rs` are those of the operators among the tokens, one for each, in their order. -/
def Traces (ts : List Token) (rs : List Record) : Prop :=
  List.Forall₂ Operator.Records (ts.filterMap Token.operator?) rs

/-! ### What is recorded on the way -/

/-- A token that can be used has a record exactly if it is an operator, and one that cannot has
none. -/
theorem Token.valueStep_cases (b : Bindings) (stack : List Float) (t : Token) :
    (∃ stack' rs, t.valueStep b stack = ⟨.ok stack', rs⟩ ∧ Traces [t] rs) ∨
      ∃ e, t.valueStep b stack = ⟨.error e, []⟩ := by
  cases t with
  | number x => exact .inl ⟨x :: stack, [], rfl, .nil⟩
  | name c =>
    rw [valueStep, Formula.valueOf]
    cases b.get? c with
    | some x => exact .inl ⟨x :: stack, [], rfl, .nil⟩
    | none => exact .inr ⟨_, rfl⟩
  | operator op =>
    rcases stack with - | ⟨y, - | ⟨x, rest⟩⟩
    · exact .inr ⟨_, rfl⟩
    · exact .inr ⟨_, rfl⟩
    · simp only [valueStep]
      cases hz : op.apply x y with
      | ok z =>
        exact .inl
          ⟨z :: rest, [.applied x op y z], rfl, .cons ⟨x, y, z, hz, rfl, rfl, rfl⟩ .nil⟩
      | error e => exact .inr ⟨e, rfl⟩
  | opening | closing | unreadable => exact .inr ⟨_, rfl⟩

theorem Traces.append {ts us : List Token} {rs rs' : List Record} (h : Traces ts rs)
    (h' : Traces us rs') : Traces (ts ++ us) (rs ++ rs') := by
  rw [Traces, List.filterMap_append]
  exact List.rel_append h h'

/-- A run uses all tokens, or stops at the first one that fails, with the fault of that token. In
either case it has recorded the operators that it has used. -/
theorem stackValue_cases (b : Bindings) (stack : List Float) (ts : List Token) :
    (∃ stack' rs, stackValue b stack ts = ⟨.ok stack', rs⟩ ∧ Traces ts rs) ∨
    ∃ us t vs stack' rs e, ts = us ++ t :: vs ∧ stackValue b stack us = ⟨.ok stack', rs⟩ ∧
      t.valueStep b stack' = ⟨.error e, []⟩ ∧ stackValue b stack ts = ⟨.error e, rs⟩ ∧
      Traces us rs := by
  induction ts generalizing stack with
  | nil => exact .inl ⟨stack, [], rfl, .nil⟩
  | cons t ts ih =>
    obtain ⟨next, rs, hstep, hrs⟩ | ⟨e, hstep⟩ := t.valueStep_cases b stack
    · have hcons : ∀ us, stackValue b stack (t :: us)
          = ⟨(stackValue b next us).result, rs ++ (stackValue b next us).records⟩ := by
        intro us
        rw [stackValue_cons, hstep]
        exact Logged.bind_of_ok rfl _
      obtain ⟨stack', rs', hrun, hrs'⟩ | ⟨us, u, vs, stack', rs', e, rfl, hrun, hfail, hall, hrs'⟩ :=
        ih next
      · refine .inl ⟨stack', rs ++ rs', ?_, hrs.append hrs'⟩
        rw [hcons, hrun]
      · refine .inr ⟨t :: us, u, vs, stack', rs ++ rs', e, rfl, ?_, hfail, ?_, hrs.append hrs'⟩
        · rw [hcons, hrun]
        · rw [hcons, hall]
    · refine .inr ⟨[], t, ts, stack, [], e, rfl, rfl, hstep, ?_, .nil⟩
      rw [stackValue_cons, hstep]
      exact Logged.bind_of_error rfl _

namespace Formula

/-! ### The value on the stack -/

/-- **A formula laid flat puts its value on the stack**, or fails as the formula does, and records
the same operations, whatever lies below and whatever comes behind. -/
theorem stackValue_toReversePolish (b : Bindings) (f : Formula) (stack : List Float)
    (ts : List Token) :
    stackValue b stack (f.toReversePolish ++ ts)
      = f.evalLogged b >>= fun x => stackValue b (x :: stack) ts := by
  induction f generalizing stack ts with
  | const x => rfl
  | var c =>
    rw [toReversePolish, List.singleton_append, stackValue_cons, Token.valueStep, evalLogged,
      bind_map_left]
  | binary l op r ihl ihr =>
    rw [toReversePolish, List.append_assoc, List.append_assoc, ihl]
    simp only [ihr, List.singleton_append, stackValue_cons, Token.valueStep, bind_map_left,
      evalLogged, bind_assoc]

end Formula

/-- A token that fails for another reason than its shape is a variable without a value or an
operator that has no result for the two numbers on top of the stack. -/
theorem Token.valueStep_eq_error {b : Bindings} {stack : List Float} {t : Token} {e : Fault}
    (h : t.valueStep b stack = ⟨.error e, []⟩) (he : ∀ m, e ≠ .malformed m) :
    (∃ c, t = .name c ∧ b.get? c = none ∧ e = .unbound c) ∨
      ∃ op x y rest, t = .operator op ∧ stack = y :: x :: rest ∧ op.apply x y = .error e := by
  have hresult := congrArg Logged.result h
  cases t with
  | number x => cases hresult
  | name c =>
    rw [valueStep, Logged.result_map, Logged.result_quiet, Formula.valueOf] at hresult
    cases hc : b.get? c with
    | some x => rw [hc] at hresult; cases hresult
    | none =>
      rw [hc] at hresult
      cases hresult
      exact .inl ⟨c, rfl, hc, rfl⟩
  | operator op =>
    rcases stack with - | ⟨y, - | ⟨x, rest⟩⟩
    · cases hresult
      exact absurd rfl (he _)
    · cases hresult
      exact absurd rfl (he _)
    · rw [valueStep, Logged.result_map, Logged.result_recording] at hresult
      refine .inr ⟨op, x, y, rest, rfl, rfl, ?_⟩
      cases hz : op.apply x y with
      | ok z => rw [hz] at hresult; cases hresult
      | error e' =>
        rw [hz] at hresult
        cases hresult
        rfl
  | opening | closing | unreadable =>
    cases hresult
    exact absurd rfl (he _)

namespace Formula

/-- By itself, a formula laid flat leaves its value alone on an empty stack. -/
theorem stackValue_toReversePolish_nil (b : Bindings) (f : Formula) :
    stackValue b [] f.toReversePolish = (fun x => [x]) <$> f.evalLogged b := by
  have hflat := stackValue_toReversePolish b f [] []
  rw [List.append_nil] at hflat
  rw [hflat, map_eq_pure_bind]
  rfl

theorem result_stackValue_toReversePolish (b : Bindings) (f : Formula) :
    (stackValue b [] f.toReversePolish).result = (fun x => [x]) <$> f.eval b := by
  rw [stackValue_toReversePolish_nil, Logged.result_map, result_evalLogged]

theorem records_stackValue_toReversePolish (b : Bindings) (f : Formula) :
    (stackValue b [] f.toReversePolish).records = (f.evalLogged b).records := by
  rw [stackValue_toReversePolish_nil, Logged.records_map]

/-- If a formula has a value, all its operators have been recorded. -/
theorem traces_of_eval_eq_ok {b : Bindings} {f : Formula} {x : Float} (h : f.eval b = .ok x) :
    Traces f.toReversePolish (f.evalLogged b).records := by
  have hresult := result_stackValue_toReversePolish b f
  have hrecords := records_stackValue_toReversePolish b f
  obtain ⟨stack, rs, hall, hrs⟩ | ⟨us, t, vs, stack, rs, e, -, -, -, hall, -⟩ :=
    stackValue_cases b [] f.toReversePolish
  · rw [hall] at hrecords
    obtain rfl : rs = (f.evalLogged b).records := hrecords
    exact hrs
  · rw [hall, h] at hresult
    cases hresult

/-- If it has none, its fault is that of the first token that fails, and the operators in front of
that token have been recorded. -/
theorem exists_of_eval_eq_error {b : Bindings} {f : Formula} {e : Fault} (h : f.eval b = .error e) :
    ∃ us t vs stack, f.toReversePolish = us ++ t :: vs ∧
      stackValue b [] us = ⟨.ok stack, (f.evalLogged b).records⟩ ∧
      t.valueStep b stack = ⟨.error e, []⟩ ∧ Traces us (f.evalLogged b).records := by
  have hresult := result_stackValue_toReversePolish b f
  have hrecords := records_stackValue_toReversePolish b f
  obtain ⟨stack, rs, hall, -⟩ | ⟨us, t, vs, stack, rs, e', hp, hus, hfail, hall, hrs⟩ :=
    stackValue_cases b [] f.toReversePolish
  · rw [hall, h] at hresult
    cases hresult
  · rw [hall] at hrecords
    rw [hall, h] at hresult
    cases hresult
    obtain rfl : rs = (f.evalLogged b).records := hrecords
    exact ⟨us, t, vs, stack, hp, hus, hfail, hrs⟩

/-- **Evaluation is a run on a stack**: the tokens from which a formula is assembled leave its value
alone on an empty stack, or fail as the formula does, with the same records. If there is a value,
there is one record for each operator, in the order of the tokens. Else the fault is that of the
first token that fails, a variable without a value or an operator without a result, and there is one
record for each operator in front of it. -/
theorem evalLogged_eq_stackValue {p : List Token} {f : Formula} (h : ofReversePolish p = .ok f)
    (b : Bindings) :
    (f.evalLogged b).result = f.eval b ∧
    stackValue b [] p = (fun x => [x]) <$> f.evalLogged b ∧
    (∀ x, f.eval b = .ok x →
      Traces p (f.evalLogged b).records ∧ (f.evalLogged b).records.length = f.operators.length) ∧
    ∀ e, f.eval b = .error e → ∃ us t vs stack, p = us ++ t :: vs ∧
      stackValue b [] us = ⟨.ok stack, (f.evalLogged b).records⟩ ∧
      ((∃ c, t = .name c ∧ b.get? c = none ∧ e = .unbound c) ∨
        ∃ op x y rest, t = .operator op ∧ stack = y :: x :: rest ∧ op.apply x y = .error e) ∧
      Traces us (f.evalLogged b).records := by
  obtain rfl := ofReversePolish_eq_ok_iff.1 h
  refine ⟨result_evalLogged b f, stackValue_toReversePolish_nil b f, ?_, ?_⟩
  · intro x hx
    have htraces := traces_of_eval_eq_ok hx
    exact ⟨htraces, htraces.length_eq.symm.trans f.operators_perm.length_eq.symm⟩
  · intro e he
    have hshape : ∀ m, e ≠ .malformed m := by
      rintro m rfl
      obtain ⟨c, hc⟩ | hc := eval_eq_error he
      · cases hc
      · cases hc
    obtain ⟨us, t, vs, stack, hp, hus, hfail, htraces⟩ := exists_of_eval_eq_error he
    exact ⟨us, t, vs, stack, hp, hus, Token.valueStep_eq_error hfail hshape, htraces⟩

/-- In `x * 2 + y` the product has been carried out when it turns out that `y` has no value. -/
theorem evalLogged_eq_stackValue_unbound :
    ofReversePolish [.name 'x', .number 2.0, .operator .multiply, .name 'y', .operator .add]
      = .ok (binary (binary (var 'x') .multiply (const 2.0)) .add (var 'y')) ∧
    (binary (binary (var 'x') .multiply (const 2.0)) .add (var 'y')).eval ⟨[('x', 3.0)]⟩
      = .error (.unbound 'y') ∧
    ∃ us t vs stack,
      [.name 'x', .number 2.0, .operator .multiply, .name 'y', .operator .add] = us ++ t :: vs ∧
      stackValue ⟨[('x', 3.0)]⟩ [] us = ⟨.ok stack, [.applied 3.0 .multiply 2.0 6.0]⟩ ∧
      Traces us [.applied 3.0 .multiply 2.0 6.0] := by
  have h : ofReversePolish [.name 'x', .number 2.0, .operator .multiply, .name 'y', .operator .add]
      = .ok (binary (binary (var 'x') .multiply (const 2.0)) .add (var 'y')) := by rfl
  have he : (binary (binary (var 'x') .multiply (const 2.0)) .add (var 'y')).eval ⟨[('x', 3.0)]⟩
      = .error (.unbound 'y') := by rfl
  have hrecords : ((binary (binary (var 'x') .multiply (const 2.0)) .add (var 'y')).evalLogged
      ⟨[('x', 3.0)]⟩).records = [.applied 3.0 .multiply 2.0 6.0] := by rfl
  obtain ⟨-, -, -, herror⟩ := evalLogged_eq_stackValue h ⟨[('x', 3.0)]⟩
  obtain ⟨us, t, vs, stack, hp, hus, -, htraces⟩ := herror _ he
  rw [hrecords] at hus htraces
  exact ⟨h, he, us, t, vs, stack, hp, hus, htraces⟩

end Formula

end Formulary
