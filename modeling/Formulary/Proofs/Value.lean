import Formulary.Formula.Trace
import Formulary.Proofs.Outcome
import Mathlib.Data.List.Basic

/-!
# What a value depends on

Operands are evaluated from left to right, and the variables of a formula are listed from left to
right. So when a variable is reported to have no value, it is the first of the list that has none:
whatever stands to the left of it has been evaluated (`find?_lacks_of_eval_eq_unbound`). If there is
a value, no variable lacks one (`find?_lacks_of_eval_eq_ok`). A caller who supplies what is reported
and tries again is therefore done after as many tries as there were variables without a value, or
meets a division by zero earlier (`eval_missing_variables`).

Nothing but the values of the variables that are reached matters. Bindings that agree on all
variables have the same outcome, and further values change it only if one was missing
(`eval_depends_on_vars`).
-/

namespace Formulary

namespace Bindings

/-- Whether a variable has no value. -/
def lacks (b : Bindings) (c : Char) : Bool := (b.get? c).isNone

/-- A variable that is given a value has one, and the others are as before. -/
theorem lacks_insert (b : Bindings) (c d : Char) (x : Float) :
    (b.insert c x).lacks d = (decide (d ≠ c) && b.lacks d) := by
  rw [lacks, get?_insert, lacks]
  by_cases h : d = c <;> simp [h]

end Bindings

namespace Formula

/-! ### The first variable without a value -/

theorem find?_addVars (p : Char → Bool) (names : List Char) (f : Formula) :
    (f.addVars names).find? p = (names ++ f.occurrences).find? p := by
  induction f generalizing names with
  | const x => rw [addVars, occurrences, List.append_nil]
  | var c =>
    rw [addVars, occurrences]
    split
    · -- the name is there already, so it is not the first one to be found behind the others
      rename_i hc
      rw [List.contains_iff_mem] at hc
      rw [List.find?_append]
      cases hn : names.find? p with
      | some d => rfl
      | none =>
        rw [List.find?_eq_none] at hn
        rw [Option.none_or, List.find?_cons_of_neg (hn c hc)]
        rfl
    · rfl
  | binary l op r ihl ihr =>
    rw [addVars, ihr, List.find?_append, ihl, ← List.find?_append, occurrences, List.append_assoc]

/-- The first variable of some kind is the first one that occurs. -/
theorem find?_vars (p : Char → Bool) (f : Formula) : f.vars.find? p = f.occurrences.find? p :=
  find?_addVars p [] f

theorem forall_mem_vars_iff {f : Formula} {p : Char → Bool} :
    (∀ c ∈ f.vars, p c = false) ↔ f.occurrences.find? p = none := by
  rw [← find?_vars, List.find?_eq_none]
  simp

/-! ### Faults of an evaluation -/

/-- An operation fails if an operand fails, the left one first, or if it has no result. -/
theorem eval_binary_eq_error_iff {b : Bindings} {l r : Formula} {op : Operator} {e : Fault} :
    (binary l op r).eval b = .error e ↔ l.eval b = .error e ∨ ∃ x, l.eval b = .ok x ∧
      (r.eval b = .error e ∨ ∃ y, r.eval b = .ok y ∧ op.apply x y = .error e) := by
  rw [eval_binary, bind_eq_error_iff]
  simp only [bind_eq_error_iff]

/-- If a formula has a value, everything that occurs in it has one. -/
theorem find?_lacks_of_eval_eq_ok {b : Bindings} {f : Formula} {x : Float} (h : f.eval b = .ok x) :
    f.occurrences.find? b.lacks = none := by
  induction f generalizing x with
  | const y => rfl
  | var c =>
    have hc := valueOf_eq_ok_iff.1 h
    simp [occurrences, Bindings.lacks, hc]
  | binary l op r ihl ihr =>
    rw [eval_binary, bind_eq_ok_iff] at h
    obtain ⟨y, hl, h⟩ := h
    obtain ⟨z, hr, -⟩ := bind_eq_ok_iff.1 h
    rw [occurrences, List.find?_append, ihl hl, ihr hr]
    rfl

/-- **If a formula has no value**, the first variable that has none has been reported, or there is a
division, and a divisor was zero. -/
theorem eval_eq_error_cases {b : Bindings} {f : Formula} {e : Fault} (h : f.eval b = .error e) :
    (∃ c, e = .unbound c ∧ f.occurrences.find? b.lacks = some c) ∨
      e = .divisionByZero ∧ .divide ∈ f.operators := by
  induction f with
  | const x => cases h
  | var c =>
    obtain ⟨hc, rfl⟩ := valueOf_eq_error_iff.1 h
    refine .inl ⟨c, rfl, ?_⟩
    simp [occurrences, Bindings.lacks, hc]
  | binary l op r ihl ihr =>
    rw [occurrences, operators, List.find?_append, List.mem_append, List.mem_cons]
    obtain hl | ⟨x, hl, hr | ⟨y, -, hop⟩⟩ := eval_binary_eq_error_iff.1 h
    · obtain ⟨c, rfl, hc⟩ | ⟨rfl, hdiv⟩ := ihl hl
      · rw [hc]
        exact .inl ⟨c, rfl, rfl⟩
      · exact .inr ⟨rfl, .inl hdiv⟩
    · -- the left operand has a value, so nothing is missing in it
      rw [find?_lacks_of_eval_eq_ok hl, Option.none_or]
      obtain ⟨c, rfl, hc⟩ | ⟨rfl, hdiv⟩ := ihr hr
      · exact .inl ⟨c, rfl, hc⟩
      · exact .inr ⟨rfl, .inr (.inr hdiv)⟩
    · obtain ⟨rfl, -, rfl⟩ := Operator.apply_eq_error_iff.1 hop
      exact .inr ⟨rfl, .inr (.inl rfl)⟩

/-- A formula has no value because a variable has none or a divisor is zero. -/
theorem eval_eq_error {b : Bindings} {f : Formula} {e : Fault} (h : f.eval b = .error e) :
    (∃ c, e = .unbound c) ∨ e = .divisionByZero :=
  (eval_eq_error_cases h).imp (fun ⟨c, hc, _⟩ => ⟨c, hc⟩) And.left

/-- The variable that is reported is the first one of the list that has no value. -/
theorem find?_lacks_of_eval_eq_unbound {b : Bindings} {f : Formula} {c : Char}
    (h : f.eval b = .error (.unbound c)) : f.vars.find? b.lacks = some c := by
  rw [find?_vars]
  obtain ⟨d, hd, hfind⟩ | ⟨hd, -⟩ := eval_eq_error_cases h
  · cases hd
    exact hfind
  · cases hd

theorem mem_vars_of_eval_eq_unbound {b : Bindings} {f : Formula} {c : Char}
    (h : f.eval b = .error (.unbound c)) : c ∈ f.vars ∧ b.lacks c = true := by
  have hfind := find?_lacks_of_eval_eq_unbound h
  exact ⟨List.mem_of_find?_eq_some hfind, List.find?_some hfind⟩

/-- If all variables have values, only a division can fail. -/
theorem eval_eq_error_of_forall {b : Bindings} {f : Formula} {e : Fault}
    (hb : ∀ c ∈ f.vars, b.lacks c = false) (h : f.eval b = .error e) :
    e = .divisionByZero ∧ .divide ∈ f.operators := by
  obtain ⟨c, -, hfind⟩ | hdiv := eval_eq_error_cases h
  · rw [forall_mem_vars_iff.1 hb] at hfind
    cases hfind
  · exact hdiv

/-- Without divisions, there is a value exactly if all variables have values. -/
theorem exists_eval_eq_ok_iff {b : Bindings} {f : Formula} (hf : .divide ∉ f.operators) :
    (∃ x, f.eval b = .ok x) ↔ ∀ c ∈ f.vars, b.lacks c = false := by
  constructor
  · rintro ⟨x, hx⟩
    exact forall_mem_vars_iff.2 (find?_lacks_of_eval_eq_ok hx)
  · intro hb
    cases h : f.eval b with
    | ok x => exact ⟨x, rfl⟩
    | error e => exact absurd (eval_eq_error_of_forall hb h).2 hf

/-! ### Supplying what is missing -/

/-- What a caller does about the outcome of an evaluation: a variable that is reported to have no
value is given one. -/
def supply (f : Formula) (b : Bindings) (x : Float) : Bindings :=
  match f.eval b with
  | .error (.unbound c) => b.insert c x
  | _ => b

/-- The bindings of a caller who has tried again `n` times, giving the values `xs` one after another
to the variables that were reported. -/
def retried (f : Formula) (b : Bindings) (xs : ℕ → Float) : ℕ → Bindings
  | 0 => b
  | n + 1 => f.supply (retried f b xs n) (xs n)

theorem supply_of_unbound {f : Formula} {b : Bindings} {c : Char} (x : Float)
    (h : f.eval b = .error (.unbound c)) : f.supply b x = b.insert c x := by
  rw [supply, h]

theorem lacks_of_lacks_supply {f : Formula} {b : Bindings} {x : Float} {c : Char}
    (h : (f.supply b x).lacks c = true) : b.lacks c = true := by
  unfold supply at h
  split at h
  · rw [Bindings.lacks_insert, Bool.and_eq_true] at h
    exact h.2
  · exact h

/-- A variable that has no value after some tries had none before. -/
theorem lacks_of_lacks_retried {f : Formula} {b : Bindings} {xs : ℕ → Float} {c : Char} {m n : ℕ}
    (hmn : m ≤ n) (h : (f.retried b xs n).lacks c = true) : (f.retried b xs m).lacks c = true := by
  induction hmn with
  | refl => exact h
  | step _ ih => exact ih (lacks_of_lacks_supply h)

/-- A variable that has been reported is not reported later. -/
theorem eval_retried_ne_unbound {f : Formula} {b : Bindings} {xs : ℕ → Float} {c : Char} {m n : ℕ}
    (hmn : m < n) (h : f.eval (f.retried b xs m) = .error (.unbound c)) :
    f.eval (f.retried b xs n) ≠ .error (.unbound c) := by
  intro hn
  have hlacks := lacks_of_lacks_retried hmn (mem_vars_of_eval_eq_unbound hn).2
  rw [retried, supply_of_unbound _ h, Bindings.lacks_insert] at hlacks
  simp at hlacks

/-- Every supply leaves fewer variables without a value. -/
theorem countP_lacks_supply_lt {f : Formula} {b : Bindings} {c : Char} (x : Float)
    (h : f.eval b = .error (.unbound c)) :
    f.vars.countP (f.supply b x).lacks < f.vars.countP b.lacks := by
  obtain ⟨hmem, hlacks⟩ := mem_vars_of_eval_eq_unbound h
  have hgone : (f.supply b x).lacks c = false := by
    rw [supply_of_unbound x h, Bindings.lacks_insert]
    simp
  have hle : ∀ cs : List Char, cs.countP (f.supply b x).lacks ≤ cs.countP b.lacks :=
    fun cs => List.countP_mono_left fun d _ => lacks_of_lacks_supply
  obtain ⟨cs, ds, hsplit⟩ := List.append_of_mem hmem
  rw [hsplit, List.countP_append, List.countP_append, List.countP_cons_of_neg (by simp [hgone]),
    List.countP_cons_of_pos hlacks]
  have := hle cs
  have := hle ds
  omega

/-- As long as variables are reported, each try uses up one of those that have no value. -/
theorem countP_lacks_retried_add_le (f : Formula) (b : Bindings) (xs : ℕ → Float) (n : ℕ) :
    (∃ m < n, ∀ c, f.eval (f.retried b xs m) ≠ .error (.unbound c)) ∨
      f.vars.countP (f.retried b xs n).lacks + n ≤ f.vars.countP b.lacks := by
  induction n with
  | zero => exact .inr (Nat.le_refl _)
  | succ n ih =>
    obtain ⟨m, hm, h⟩ | hle := ih
    · exact .inl ⟨m, Nat.lt_succ_of_lt hm, h⟩
    · by_cases h : ∃ c, f.eval (f.retried b xs n) = .error (.unbound c)
      · obtain ⟨c, h⟩ := h
        have hlt := countP_lacks_supply_lt (xs n) h
        rw [retried]
        exact .inr (by omega)
      · push Not at h
        exact .inl ⟨n, Nat.lt_succ_self n, h⟩

/-- Supplying comes to an end: there is a value, or a division by zero, after as many tries as there
were variables without a value at the latest. -/
theorem exists_retried_settled (f : Formula) (b : Bindings) (xs : ℕ → Float) :
    ∃ n ≤ f.vars.countP b.lacks, (∃ x, f.eval (f.retried b xs n) = .ok x) ∨
      f.eval (f.retried b xs n) = .error .divisionByZero := by
  obtain ⟨n, hn, h⟩ | hle := countP_lacks_retried_add_le f b xs (f.vars.countP b.lacks + 1)
  · refine ⟨n, Nat.le_of_lt_succ hn, ?_⟩
    cases hev : f.eval (f.retried b xs n) with
    | ok x => exact .inl ⟨x, rfl⟩
    | error e =>
      obtain ⟨c, rfl⟩ | rfl := eval_eq_error hev
      · exact absurd hev (h c)
      · exact .inr rfl
  · omega

/-- **Missing variables are reported from left to right.** A variable that is reported is the first
of the list that has no value, and if the formula has a value then so has every variable. If every
variable has a value, only a division can fail, so without divisions there is a value exactly if
every variable has one. Whoever gives values to the variables that are reported, whichever values
these are, never hears of one of them again and is done after as many tries as there were variables
without a value at the latest, with a value or with a division by zero. -/
theorem eval_missing_variables (f : Formula) (b : Bindings) :
    (∀ c, f.eval b = .error (.unbound c) → f.vars.find? b.lacks = some c) ∧
    (∀ x, f.eval b = .ok x → ∀ c ∈ f.vars, b.lacks c = false) ∧
    ((∀ c ∈ f.vars, b.lacks c = false) →
      ∀ e, f.eval b = .error e → e = .divisionByZero ∧ .divide ∈ f.operators) ∧
    (.divide ∉ f.operators →
      ((∃ x, f.eval b = .ok x) ↔ ∀ c ∈ f.vars, b.lacks c = false)) ∧
    ∀ xs : ℕ → Float,
      (∀ i j c, f.eval (f.retried b xs i) = .error (.unbound c) →
        f.eval (f.retried b xs j) = .error (.unbound c) → i = j) ∧
      ∃ n ≤ f.vars.countP b.lacks, (∃ x, f.eval (f.retried b xs n) = .ok x) ∨
        f.eval (f.retried b xs n) = .error .divisionByZero := by
  refine ⟨fun c => find?_lacks_of_eval_eq_unbound, fun x h => ?_,
    fun hb e => eval_eq_error_of_forall hb, exists_eval_eq_ok_iff,
    fun xs => ⟨fun i j c hi hj => ?_, exists_retried_settled f b xs⟩⟩
  · exact forall_mem_vars_iff.2 (find?_lacks_of_eval_eq_ok h)
  · rcases Nat.lt_trichotomy i j with hij | hij | hij
    · exact absurd hj (eval_retried_ne_unbound hij hi)
    · exact hij
    · exact absurd hi (eval_retried_ne_unbound hij hj)

/-- In `x / y` with a value for `x` alone, `y` is reported, and only once, whatever it is given.
With values for both, nothing but a division by zero can fail. In `x + y` there is no value as long
as `y` has none. -/
theorem eval_missing_variables_quotient :
    (binary (var 'x') .divide (var 'y')).eval ⟨[('x', 1.0)]⟩ = .error (.unbound 'y') ∧
    (binary (var 'x') .divide (var 'y')).vars.find? (Bindings.lacks ⟨[('x', 1.0)]⟩) = some 'y' ∧
    (∀ xs j, (binary (var 'x') .divide (var 'y')).eval
      ((binary (var 'x') .divide (var 'y')).retried ⟨[('x', 1.0)]⟩ xs j) = .error (.unbound 'y') →
        0 = j) ∧
    (∀ xs, ∃ n ≤ 1,
      (∃ x, (binary (var 'x') .divide (var 'y')).eval
        ((binary (var 'x') .divide (var 'y')).retried ⟨[('x', 1.0)]⟩ xs n) = .ok x) ∨
      (binary (var 'x') .divide (var 'y')).eval
        ((binary (var 'x') .divide (var 'y')).retried ⟨[('x', 1.0)]⟩ xs n)
          = .error .divisionByZero) ∧
    (∀ c ∈ (binary (var 'x') .divide (var 'y')).vars,
      Bindings.lacks ⟨[('x', 1.0), ('y', 0.0)]⟩ c = false) ∧
    (∀ e, (binary (var 'x') .divide (var 'y')).eval ⟨[('x', 1.0), ('y', 0.0)]⟩ = .error e →
      e = .divisionByZero) ∧
    .divide ∉ (binary (var 'x') .add (var 'y')).operators ∧
    ¬ ∃ x, (binary (var 'x') .add (var 'y')).eval ⟨[('x', 1.0)]⟩ = .ok x := by
  have hy : (binary (var 'x') .divide (var 'y')).eval ⟨[('x', 1.0)]⟩ = .error (.unbound 'y') := by
    rfl
  have hcount : (binary (var 'x') .divide (var 'y')).vars.countP (Bindings.lacks ⟨[('x', 1.0)]⟩)
      = 1 := by rfl
  have hsupplied : ∀ c ∈ (binary (var 'x') .divide (var 'y')).vars,
      Bindings.lacks ⟨[('x', 1.0), ('y', 0.0)]⟩ c = false := by
    have hvars : (binary (var 'x') .divide (var 'y')).vars = ['x', 'y'] := by decide
    rw [hvars, List.forall_mem_cons, List.forall_mem_singleton]
    exact ⟨by rfl, by rfl⟩
  have hsum : .divide ∉ (binary (var 'x') .add (var 'y')).operators := by decide
  obtain ⟨hfirst, -, -, -, hretry⟩ :=
    eval_missing_variables (binary (var 'x') .divide (var 'y')) ⟨[('x', 1.0)]⟩
  rw [hcount] at hretry
  refine ⟨hy, hfirst _ hy, fun xs j => (hretry xs).1 0 j 'y' hy, fun xs => (hretry xs).2,
    hsupplied, fun e he => ?_, hsum, ?_⟩
  · exact ((eval_missing_variables _ _).2.2.1 hsupplied e he).1
  · rw [(eval_missing_variables _ _).2.2.2.1 hsum]
    intro hall
    have hlacks : Bindings.lacks ⟨[('x', 1.0)]⟩ 'y' = true := by rfl
    exact Bool.noConfusion (hlacks.symm.trans (hall 'y' (by decide)))

/-! ### Which bindings matter -/

/-- Bindings that agree on what occurs in a formula have the same outcome and the same trace. -/
theorem evalLogged_congr {b b' : Bindings} {f : Formula}
    (h : ∀ c ∈ f.occurrences, b.get? c = b'.get? c) : f.evalLogged b' = f.evalLogged b := by
  induction f with
  | const x => rfl
  | var c =>
    have hc := h c (List.mem_singleton_self c)
    rw [evalLogged, evalLogged, valueOf, valueOf, hc]
  | binary l op r ihl ihr =>
    rw [occurrences, List.forall_mem_append] at h
    rw [evalLogged, evalLogged, ihl h.1, ihr h.2]

/-- Further values change neither the outcome nor the trace, unless one was missing. -/
theorem evalLogged_of_extends {b b' : Bindings} {f : Formula}
    (h : ∀ c ∈ f.occurrences, ∀ x, b.get? c = some x → b'.get? c = some x)
    (hf : ∀ c, f.eval b ≠ .error (.unbound c)) : f.evalLogged b' = f.evalLogged b := by
  induction f with
  | const x => rfl
  | var c =>
    cases hc : b.get? c with
    | some x =>
      have hc' := h c (List.mem_singleton_self c) x hc
      rw [evalLogged, evalLogged, valueOf, valueOf, hc, hc']
    | none => exact absurd (valueOf_eq_error_iff.2 ⟨hc, rfl⟩) (hf c)
  | binary l op r ihl ihr =>
    rw [occurrences, List.forall_mem_append] at h
    have hl : ∀ c, l.eval b ≠ .error (.unbound c) :=
      fun c hl => hf c (eval_binary_eq_error_iff.2 (.inl hl))
    rw [evalLogged, evalLogged, ihl h.1 hl]
    cases hx : l.eval b with
    | error e =>
      -- the right operand is not reached, so whatever it lacks has no influence
      have hx' : (l.evalLogged b).result = .error e := by rw [result_evalLogged, hx]
      rw [Logged.bind_of_error hx', Logged.bind_of_error hx']
    | ok x =>
      have hr : ∀ c, r.eval b ≠ .error (.unbound c) :=
        fun c hr => hf c (eval_binary_eq_error_iff.2 (.inr ⟨x, hx, .inl hr⟩))
      rw [ihr h.2 hr]

/-- **Only the variables of a formula matter**, and of these only what is missing: bindings that
agree on all variables, absent values included, have the same outcome and the same trace. So do
bindings that keep the values of the variables and add further ones, for these variables or others,
unless a variable was reported to have no value. -/
theorem eval_depends_on_vars (f : Formula) (b b' : Bindings) :
    ((∀ c ∈ f.vars, b.get? c = b'.get? c) →
      f.eval b' = f.eval b ∧ f.evalLogged b' = f.evalLogged b) ∧
    ((∀ c ∈ f.vars, ∀ x, b.get? c = some x → b'.get? c = some x) →
      (∃ c, f.eval b = .error (.unbound c)) ∨
        f.eval b' = f.eval b ∧ f.evalLogged b' = f.evalLogged b) := by
  have heval : f.evalLogged b' = f.evalLogged b →
      f.eval b' = f.eval b ∧ f.evalLogged b' = f.evalLogged b := by
    intro h
    refine ⟨?_, h⟩
    rw [← result_evalLogged, h, result_evalLogged]
  constructor
  · intro h
    exact heval (evalLogged_congr fun c hc => h c (mem_vars.2 hc))
  · intro h
    by_cases hf : ∃ c, f.eval b = .error (.unbound c)
    · exact .inl hf
    · push Not at hf
      exact .inr (heval (evalLogged_of_extends (fun c hc => h c (mem_vars.2 hc)) hf))

/-- In `x / y + z` the value of `z` is not reached if `y` is zero, whether there is one or not. -/
theorem eval_depends_on_vars_division :
    (∀ c ∈ (binary (binary (var 'x') .divide (var 'y')) .add (var 'z')).vars,
      Bindings.get? ⟨[('x', 1.0), ('y', 0.0)]⟩ c
        = Bindings.get? ⟨[('y', 0.0), ('w', 7.0), ('x', 1.0)]⟩ c) ∧
    (∀ c ∈ (binary (binary (var 'x') .divide (var 'y')) .add (var 'z')).vars, ∀ x,
      Bindings.get? ⟨[('x', 1.0), ('y', 0.0)]⟩ c = some x →
        Bindings.get? ⟨[('x', 1.0), ('y', 0.0), ('z', 5.0)]⟩ c = some x) ∧
    (binary (binary (var 'x') .divide (var 'y')) .add (var 'z')).eval
        ⟨[('y', 0.0), ('w', 7.0), ('x', 1.0)]⟩ = .error .divisionByZero ∧
    (binary (binary (var 'x') .divide (var 'y')) .add (var 'z')).eval
        ⟨[('x', 1.0), ('y', 0.0), ('z', 5.0)]⟩ = .error .divisionByZero := by
  have hfew : (binary (binary (var 'x') .divide (var 'y')) .add (var 'z')).eval
      ⟨[('x', 1.0), ('y', 0.0)]⟩ = .error .divisionByZero := by rfl
  have hvars : (binary (binary (var 'x') .divide (var 'y')) .add (var 'z')).vars
      = ['x', 'y', 'z'] := by decide
  have hagree : ∀ c ∈ (binary (binary (var 'x') .divide (var 'y')) .add (var 'z')).vars,
      Bindings.get? ⟨[('x', 1.0), ('y', 0.0)]⟩ c
        = Bindings.get? ⟨[('y', 0.0), ('w', 7.0), ('x', 1.0)]⟩ c := by
    rw [hvars, List.forall_mem_cons, List.forall_mem_cons, List.forall_mem_singleton]
    exact ⟨by rfl, by rfl, by rfl⟩
  have hkeep : ∀ c ∈ (binary (binary (var 'x') .divide (var 'y')) .add (var 'z')).vars, ∀ x,
      Bindings.get? ⟨[('x', 1.0), ('y', 0.0)]⟩ c = some x →
        Bindings.get? ⟨[('x', 1.0), ('y', 0.0), ('z', 5.0)]⟩ c = some x := by
    rw [hvars, List.forall_mem_cons, List.forall_mem_cons, List.forall_mem_singleton]
    refine ⟨fun x h => h, fun x h => h, fun x h => ?_⟩
    have hnone : Bindings.get? ⟨[('x', 1.0), ('y', 0.0)]⟩ 'z' = none := by rfl
    cases hnone.symm.trans h
  refine ⟨hagree, hkeep, ?_, ?_⟩
  · exact ((eval_depends_on_vars _ _ _).1 hagree).1.trans hfew
  · obtain ⟨c, hc⟩ | ⟨heval, -⟩ := (eval_depends_on_vars _ _ _).2 hkeep
    · cases hfew.symm.trans hc
    · exact heval.trans hfew

end Formula

end Formulary
