import Formulary.Proofs.Ledger
import Formulary.Proofs.Memo
import Formulary.Proofs.RoundTrip

/-!
# Catalogues keep ledgers

A catalogue keeps a ledger if its compiler is sound, its equations are the texts of the ledger in
order, each with its number and its formula, and the next number is the one behind them. An empty
catalogue keeps the empty ledger, and every call keeps it so and is answered as the ledger would
answer it, as long as numbers have not run out (`Keeps.step`). So a conversation of any length is
answered from the texts alone (`run_eq_run_ledger`), however few formulas the compiler remembers.
-/

namespace Formulary

/-- What is told of an equation of a catalogue. -/
def Equation.entry (e : Equation) : Entry := ⟨e.id.toNat, e.text, .ok e.compiled.formula⟩

namespace Catalogue

/-- What is told in an answer. Which of several equal formulas it shows is left out. -/
def Answer.reply : Answer → Reply
  | .stored id => .stored id.toNat
  | .equation e => .entry e.entry
  | .all es => .all (es.map Equation.entry)
  | .value x => .value x
  | .same b => .same b
  | .isEmpty b => .isEmpty b

/-- An equation with the largest number goes to the end. -/
theorem insertById_eq_append {e : Equation} {es : List Equation} (h : ∀ f ∈ es, f.id < e.id) :
    insertById e es = es ++ [e] := by
  induction es with
  | nil => rfl
  | cons f fs ih =>
    obtain ⟨hf, hfs⟩ := List.forall_mem_cons.1 h
    have hnlt : ¬ e.id < f.id := UInt64.not_lt.2 (UInt64.le_of_lt hf)
    have hne : e.id ≠ f.id := (UInt64.ne_of_lt hf).symm
    rw [insertById, if_neg hnlt, if_neg hne, ih hfs, List.cons_append]

/-- A text that its compiler refuses is refused, and the equations stay as they are. -/
theorem store_of_error {c : Catalogue} {text : String} {e : Fault}
    (h : (c.memo.compile text).1.result = .error e) :
    (c.store text).1.result = .error (.invalid e) ∧
      (c.store text).2 = { c with memo := (c.memo.compile text).2 } := by
  simp only [store, h, and_self]

/-- A text whose formula its compiler has is put in under the next number. -/
theorem store_of_ok {c : Catalogue} {text : String} {compiled : Compiled}
    (h : (c.memo.compile text).1.result = .ok compiled) :
    (c.store text).1.result = .ok c.nextId ∧
      (c.store text).2 = ⟨(c.memo.compile text).2,
        insertById ⟨c.nextId, text, compiled⟩ c.equations, c.nextId + 1⟩ := by
  simp only [store, h, and_self]

/-- The catalogue shows what the ledger has. -/
structure Keeps (c : Catalogue) (l : Ledger) : Prop where
  memo : c.memo.IsSound
  equations : c.equations.map Equation.entry = l.entries
  nextId : c.nextId = .ofNat (l.size + 1)

namespace Keeps

variable {c : Catalogue} {l : Ledger}

theorem new (capacity : Nat) (h : 0 < capacity) : Keeps (new capacity h) .empty :=
  ⟨Memo.isSound_new capacity h, rfl, rfl⟩

theorem size (h : Keeps c l) : c.size = l.size := by
  have hl := congrArg List.length h.equations
  rwa [List.length_map, Ledger.entries, List.length_mapIdx] at hl

/-- The formula of an equation is the one that its text stands for. -/
theorem compile_text (h : Keeps c l) {e : Equation} (he : e ∈ c.equations) :
    Formula.compile e.text = .ok e.compiled.formula := by
  have hm : e.entry ∈ l.entries := h.equations ▸ List.mem_map_of_mem he
  exact (Ledger.mem_entries hm).2.symm

/-- The next number is larger than those of all equations, unless numbers have run out. -/
theorem lt_nextId (h : Keeps c l) (hroom : l.size + 1 < 2 ^ 64) {e : Equation}
    (he : e ∈ c.equations) : e.id < c.nextId := by
  have hm : e.entry ∈ l.entries := h.equations ▸ List.mem_map_of_mem he
  have hle : e.id.toNat ≤ l.size := (Ledger.mem_entries hm).1
  rw [UInt64.lt_iff_toNat_lt, h.nextId, UInt64.toNat_ofNat_of_lt' hroom]
  exact Nat.lt_succ_of_le hle

/-- An equation is found under its number, as in the ledger. -/
theorem get (h : Keeps c l) (id : UInt64) : (c.get id).map Equation.entry = l.get id := by
  have hfind : (c.equations.find? fun e => e.id = id).map Equation.entry = l.entryAt? id.toNat := by
    rw [← Ledger.find?_entries, ← h.equations, List.find?_map]
    congr 2
    funext e
    exact decide_eq_decide.2 UInt64.toNat_inj.symm
  rw [Catalogue.get, Ledger.get, ← hfind]
  cases c.equations.find? fun e => e.id = id <;> rfl

/-- What is found under a number is an equation with this number. -/
theorem of_get {id : UInt64} {e : Equation} (he : c.get id = .ok e) :
    e ∈ c.equations ∧ e.id = id := by
  rw [get_eq_ok_iff] at he
  exact ⟨List.mem_of_find?_eq_some he, by simpa using List.find?_some he⟩

/-- An equation has the value that its text has. -/
theorem eval (h : Keeps c l) (id : UInt64) (b : Bindings) :
    (c.eval id b).result = l.eval id b := by
  rw [Ledger.eval, ← h.get]
  cases hg : c.get id with
  | error e =>
    simp only [Catalogue.eval, hg, Logged.result_bind, Logged.result_quiet]
    rfl
  | ok e =>
    have ht : Formula.evalText e.text b = e.compiled.formula.eval b := by
      rw [Formula.evalText, h.compile_text (of_get hg).1]
      rfl
    simp only [Catalogue.eval, hg, Logged.result_bind, Logged.result_quiet, Logged.result_write,
      Logged.result_mapError, Formula.result_evalLogged]
    show _ = (Formula.evalText e.text b).mapError _
    rw [ht]
    rfl

/-- Equations are the same if their numbers are. -/
theorem same (h : Keeps c l) (i j : UInt64) : c.same i j = l.same i j := by
  rw [Catalogue.same, Ledger.same, ← h.get, ← h.get]
  cases hi : c.get i with
  | error e => rfl
  | ok e =>
    cases hj : c.get j with
    | error e => rfl
    | ok f =>
      show Except.ok (e == f) = Except.ok (decide (i = j))
      obtain ⟨he, rfl⟩ := of_get hi
      obtain ⟨-, rfl⟩ := of_get hj
      rw [Except.ok.injEq]
      show (decide (e.id = f.id) && e.text == f.text && e.compiled.formula == f.compiled.formula) = _
      by_cases hid : e.id = f.id
      · obtain rfl : e = f := Except.ok.inj (hi.symm.trans (hid ▸ hj))
        have hb := Formula.beq_self_of_isPlain (Formula.isPlain_of_compile (h.compile_text he))
        simp [hb]
      · simp [hid]

/-- Storing a text gives it the next number and puts it behind the others, or refuses it. -/
theorem store (h : Keeps c l) {text : String}
    (hroom : (Formula.compile text).isOk = true → l.size + 1 < 2 ^ 64) :
    (c.store text).1.result.map UInt64.toNat = (l.store text).1 ∧
      Keeps (c.store text).2 (l.store text).2 ∧ c.equations <+: (c.store text).2.equations := by
  obtain ⟨hresult, hmemo⟩ := h.memo.compile text
  cases hmade : (c.memo.compile text).1.result with
  | error e =>
    rw [hmade] at hresult
    obtain ⟨hanswer, hafter⟩ := store_of_error hmade
    rw [hanswer, hafter, Ledger.store_of_error hresult.symm]
    exact ⟨rfl, ⟨hmemo, h.equations, h.nextId⟩, List.prefix_refl _⟩
  | ok compiled =>
    rw [hmade] at hresult
    have hlt := hroom (by rw [← hresult]; rfl)
    have hid : c.nextId.toNat = l.size + 1 := by
      rw [h.nextId, UInt64.toNat_ofNat_of_lt' hlt]
    obtain ⟨hanswer, hafter⟩ := store_of_ok hmade
    rw [insertById_eq_append fun e he => h.lt_nextId hlt he] at hafter
    rw [hanswer, hafter, Ledger.store_of_ok hresult.symm]
    refine ⟨congrArg Except.ok hid, ⟨hmemo, ?_, ?_⟩, List.prefix_append _ _⟩
    · rw [List.map_append, h.equations, Ledger.entries_append, ← hresult]
      simp only [List.map_cons, List.map_nil, Equation.entry, hid]
      rfl
    · rw [h.nextId]
      simp [Ledger.size]

/-- **One call**: it is answered as the ledger answers it, the catalogue goes on to keep the ledger,
and every equation stays where it is. -/
theorem step (h : Keeps c l) {call : Call} (hroom : (l.step call).2.size < 2 ^ 64) :
    (c.step call).1.result.map Answer.reply = (l.step call).1 ∧
      Keeps (c.step call).2 (l.step call).2 ∧ c.equations <+: (c.step call).2.equations := by
  cases call with
  | store text =>
    have hlt : (Formula.compile text).isOk = true → l.size + 1 < 2 ^ 64 := by
      intro hok
      rwa [Ledger.size_step, Call.stores, if_pos hok] at hroom
    obtain ⟨hanswer, hkeeps, hprefix⟩ := h.store hlt
    refine ⟨?_, hkeeps, hprefix⟩
    rw [Ledger.step, ← hanswer]
    show (Answer.stored <$> (c.store text).1).result.map _ = _
    rw [Logged.result_map]
    cases (c.store text).1.result <;> rfl
  | get id =>
    refine ⟨?_, h, List.prefix_refl _⟩
    show (Answer.equation <$> Logged.quiet (c.get id)).result.map _ = (l.get id).map Reply.entry
    rw [Logged.result_map, Logged.result_quiet, ← h.get]
    cases c.get id <;> rfl
  | all => exact ⟨congrArg (Except.ok ∘ Reply.all) h.equations, h, List.prefix_refl _⟩
  | eval id b =>
    refine ⟨?_, h, List.prefix_refl _⟩
    show (Answer.value <$> c.eval id b).result.map _ = (l.eval id b).map Reply.value
    rw [Logged.result_map, h.eval]
    cases l.eval id b <;> rfl
  | same i j =>
    refine ⟨?_, h, List.prefix_refl _⟩
    show (Answer.same <$> Logged.quiet (c.same i j)).result.map _ = (l.same i j).map Reply.same
    rw [Logged.result_map, Logged.result_quiet, h.same]
    cases l.same i j <;> rfl
  | isEmpty =>
    refine ⟨?_, h, List.prefix_refl _⟩
    have hempty : c.isEmpty = decide (l.size = 0) := by
      rw [← h.size, Catalogue.isEmpty, Catalogue.size]
      cases c.equations <;> rfl
    exact congrArg (Except.ok ∘ Reply.isEmpty) hempty

/-- **A conversation**: all calls are answered as the ledger answers them, the catalogue keeps the
ledger to the end, and every equation stays where it is. -/
theorem run (h : Keeps c l) {calls : List Call} (hroom : (l.after calls).size < 2 ^ 64) :
    (c.run calls).map (fun s => s.1.result.map Answer.reply) = l.run calls ∧
      Keeps (c.after calls) (l.after calls) ∧ c.equations <+: (c.after calls).equations := by
  induction calls generalizing c l with
  | nil => exact ⟨rfl, h, List.prefix_refl _⟩
  | cons call calls ih =>
    have hroom' : ((l.step call).2.after calls).size < 2 ^ 64 := hroom
    have hstep : (l.step call).2.size < 2 ^ 64 := by
      rw [Ledger.size_after] at hroom'
      exact Nat.lt_of_le_of_lt (Nat.le_add_right _ _) hroom'
    obtain ⟨hanswer, hkeeps, hprefix⟩ := h.step hstep
    obtain ⟨hanswers, hkeeps', hprefix'⟩ := ih hkeeps hroom'
    refine ⟨?_, hkeeps', hprefix.trans hprefix'⟩
    rw [Catalogue.run, Ledger.run, List.map_cons, hanswer, hanswers]

/-- What is found under a number is found there after any further calls. -/
theorem get_after (h : Keeps c l) {calls : List Call} (hroom : (l.after calls).size < 2 ^ 64)
    {id : UInt64} {e : Equation} (he : c.get id = .ok e) : (c.after calls).get id = .ok e := by
  obtain ⟨-, -, hprefix⟩ := h.run hroom
  rw [get_eq_ok_iff] at he ⊢
  exact hprefix.find?_eq_some he

end Keeps

theorem after_append (c : Catalogue) (calls calls' : List Call) :
    c.after (calls ++ calls') = (c.after calls).after calls' :=
  List.foldl_append ..

/-- **A catalogue is a list of texts**: whatever its compiler remembers, every call of a
conversation is answered from the list of the texts put in so far, and there are as many equations
as texts. Once there is an equation under a number, the very same equation is found there after
any further calls. All this holds as long as there are numbers for all texts. -/
theorem run_eq_run_ledger {capacity : Nat} (h : 0 < capacity) {calls : List Call}
    (hcalls : calls.countP Call.stores < 2 ^ 64) :
    ((new capacity h).run calls).map (fun s => s.1.result.map Answer.reply)
        = Ledger.empty.run calls ∧
      ((new capacity h).after calls).size = (Ledger.empty.after calls).size ∧
      ∀ earlier later, calls = earlier ++ later → ∀ id e,
        ((new capacity h).after earlier).get id = .ok e →
        ((new capacity h).after calls).get id = .ok e := by
  obtain ⟨hanswers, hkeeps, -⟩ := (Keeps.new capacity h).run
    (Ledger.size_after_empty calls ▸ hcalls)
  refine ⟨hanswers, hkeeps.size, ?_⟩
  rintro earlier later rfl id e he
  rw [List.countP_append] at hcalls
  have hearlier : (Ledger.empty.after earlier).size < 2 ^ 64 := by
    rw [Ledger.size_after_empty]
    exact Nat.lt_of_le_of_lt (Nat.le_add_right _ _) hcalls
  obtain ⟨-, hk, -⟩ := (Keeps.new capacity h).run hearlier
  have hlater : ((Ledger.empty.after earlier).after later).size < 2 ^ 64 := by
    rwa [Ledger.size_after, Ledger.size_after_empty]
  rw [after_append]
  exact hk.get_after hlater he

/-- With room for one formula only, `x` is forgotten when `y` is put in, and stays what it was. -/
theorem run_eq_run_ledger_forgotten :
    [Call.store "x", .store "y", .store "x y", .get 1, .eval 2 ⟨[('y', 0.5)]⟩].countP Call.stores
        < 2 ^ 64 ∧
      ((new 1 (by decide)).run
          [.store "x", .store "y", .store "x y", .get 1, .eval 2 ⟨[('y', 0.5)]⟩]).map
          (fun s => s.1.result.map Answer.reply)
        = [.ok (.stored 1), .ok (.stored 2), .error (.invalid (.malformed .surplusOperands)),
          .ok (.entry ⟨1, "x", .ok (.var 'x')⟩), .ok (.value 0.5)] := by
  have hcalls : [Call.store "x", .store "y", .store "x y", .get 1,
      .eval 2 ⟨[('y', 0.5)]⟩].countP Call.stores < 2 ^ 64 := by decide +kernel
  refine ⟨hcalls, (run_eq_run_ledger (by decide) hcalls).1.trans ?_⟩
  rfl

end Catalogue

end Formulary
