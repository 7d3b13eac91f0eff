import Formulary.Proofs.Refinement

/-!
# Refusals and readings change nothing

A compiler that remembers looks a text up, which moves it to the front, before it is known whether
the text has a formula. Yet nothing is moved for a text without one, because a sound compiler keeps
nothing under it (`Memo.IsSound.eq_of_compile_eq_error`). So a catalogue that refuses a text stays
what it is, and readings never change it. Calls of these kinds can therefore be left out of any
conversation: all other answers stay the same, down to the numbers and the formulas that are shared
(`run_filter`).
-/

namespace Formulary

namespace Catalogue

/-- Every call keeps the compiler of a catalogue sound, also when numbers have run out. -/
theorem isSound_memo_step {c : Catalogue} (h : c.memo.IsSound) (call : Call) :
    (c.step call).2.memo.IsSound := by
  cases call with
  | store text =>
    have hmemo := (h.compile text).2
    show (c.store text).2.memo.IsSound
    cases hmade : (c.memo.compile text).1.result with
    | error e =>
      rw [(store_of_error hmade).2]
      exact hmemo
    | ok compiled =>
      rw [(store_of_ok hmade).2]
      exact hmemo
  | get | all | eval | same | isEmpty => exact h

theorem isSound_memo_after {c : Catalogue} (h : c.memo.IsSound) (calls : List Call) :
    (c.after calls).memo.IsSound := by
  induction calls generalizing c with
  | nil => exact h
  | cons call calls ih => exact ih (isSound_memo_step h call)

/-- Refusing a text, a catalogue with a sound compiler stays what it is. -/
theorem eq_of_store_eq_error {c : Catalogue} (h : c.memo.IsSound) {text : String}
    {e : CatalogueFault} (he : (c.store text).1.result = .error e) : (c.store text).2 = c := by
  cases hmade : (c.memo.compile text).1.result with
  | error e' => rw [(store_of_error hmade).2, h.eq_of_compile_eq_error hmade]
  | ok compiled => cases (store_of_ok hmade).1.symm.trans he

/-- A text is refused exactly if it has no formula. -/
theorem exists_store_eq_error_iff {c : Catalogue} (h : c.memo.IsSound) (text : String) :
    (∃ e, (c.store text).1.result = .error e) ↔ (Call.store text).stores = false := by
  have hresult := (h.compile text).1
  rw [Call.stores, ← hresult]
  cases hmade : (c.memo.compile text).1.result with
  | error e => simp [(store_of_error hmade).1, Except.map, Except.isOk, Except.toBool]
  | ok compiled => simp [(store_of_ok hmade).1, Except.map, Except.isOk, Except.toBool]

/-- A call that puts nothing in changes nothing. -/
theorem step_of_not_stores {c : Catalogue} (h : c.memo.IsSound) {call : Call}
    (hcall : call.stores = false) : (c.step call).2 = c := by
  cases call with
  | store text =>
    obtain ⟨e, he⟩ := (exists_store_eq_error_iff h text).2 hcall
    exact eq_of_store_eq_error h he
  | get | all | eval | same | isEmpty => rfl

/-- Leaving out calls that put nothing in leaves the state and all other answers as they are. -/
theorem run_filter {c : Catalogue} (h : c.memo.IsSound) {keep : Call → Bool} {calls : List Call}
    (hkeep : ∀ call ∈ calls, call.stores = true → keep call = true) :
    c.after (calls.filter keep) = c.after calls ∧
      (calls.filter keep).zip (c.run (calls.filter keep))
        = (calls.zip (c.run calls)).filter fun answered => keep answered.1 := by
  induction calls generalizing c with
  | nil => exact ⟨rfl, rfl⟩
  | cons call calls ih =>
    rw [List.forall_mem_cons] at hkeep
    obtain ⟨hafter, hrun⟩ := ih (isSound_memo_step h call) hkeep.2
    have hnext : ∀ calls', c.after (call :: calls') = (c.step call).2.after calls' := fun _ => rfl
    cases hk : keep call with
    | true =>
      simp only [List.filter_cons, hk, run, List.zip_cons_cons, hnext, if_true]
      exact ⟨hafter, by rw [hrun]⟩
    | false =>
      have hnot : call.stores = false := by
        cases hs : call.stores with
        | false => rfl
        | true => exact (hkeep.1 hs).symm.trans hk
      simp only [List.filter_cons, hk, run, List.zip_cons_cons, hnext, Bool.false_eq_true, if_false]
      rw [step_of_not_stores h hnot] at hafter hrun ⊢
      exact ⟨hafter, hrun⟩

/-- **Refusals and readings change nothing.** A compiler that refuses a text after any calls stays
what it is, and so does a catalogue: what is kept and in which order, the equations, and the next
number. Readings change nothing in any catalogue. A text is refused exactly if it has no formula. If
calls that are refused, or that read, are left out of a conversation, the catalogue after it is the
same, and so are the answers to all calls that are left and to all that follow. -/
theorem refusals_change_nothing {capacity : Nat} (h : 0 < capacity) :
    (∀ calls text e, (((Memo.new capacity h).after calls).compile text).1.result = .error e →
      (((Memo.new capacity h).after calls).compile text).2 = (Memo.new capacity h).after calls) ∧
    (∀ calls text e, (((new capacity h).after calls).store text).1.result = .error e →
      (((new capacity h).after calls).store text).2 = (new capacity h).after calls) ∧
    (∀ c call, (∀ text, call ≠ .store text) → (step c call).2 = c) ∧
    (∀ calls text, (∃ e, (((new capacity h).after calls).store text).1.result = .error e) ↔
      (Call.store text).stores = false) ∧
    ∀ calls (keep : Call → Bool), (∀ call ∈ calls, call.stores = true → keep call = true) →
      (new capacity h).after (calls.filter keep) = (new capacity h).after calls ∧
      (calls.filter keep).zip ((new capacity h).run (calls.filter keep))
        = (calls.zip ((new capacity h).run calls)).filter (fun answered => keep answered.1) ∧
      ∀ later, ((new capacity h).after (calls.filter keep)).run later
        = ((new capacity h).after calls).run later := by
  have hnew : (new capacity h).memo.IsSound := Memo.isSound_new capacity h
  refine ⟨fun calls text e => ?_, fun calls text e => ?_, fun c call hcall => ?_,
    fun calls text => ?_, fun calls keep hkeep => ?_⟩
  · exact ((Memo.isSound_new capacity h).after calls).eq_of_compile_eq_error
  · exact eq_of_store_eq_error (isSound_memo_after hnew calls)
  · cases call with
    | store text => exact absurd rfl (hcall text)
    | get | all | eval | same | isEmpty => rfl
  · exact exists_store_eq_error_iff (isSound_memo_after hnew calls) text
  · obtain ⟨hafter, hrun⟩ := run_filter hnew hkeep
    exact ⟨hafter, hrun, fun later => by rw [hafter]⟩

/-- Neither the refusal of `x +` nor a reading of the first equation comes between `x` and `y`: the
third equation is the one that it would be without them, with the same formula. -/
theorem refusals_change_nothing_shared :
    0 < 2 ∧
    (((Memo.new 2 (by decide)).after [.compile "x"]).compile "x +").1.result
      = .error (.malformed (.missingOperand .add)) ∧
    (((Memo.new 2 (by decide)).after [.compile "x"]).compile "x +").2
      = (Memo.new 2 (by decide)).after [.compile "x"] ∧
    (((new 2 (by decide)).after [.store "x"]).store "x +").1.result
      = .error (.invalid (.malformed (.missingOperand .add))) ∧
    (((new 2 (by decide)).after [.store "x"]).store "x +").2 = (new 2 (by decide)).after [.store "x"] ∧
    (∀ text, Call.eval 1 ⟨[]⟩ ≠ .store text) ∧
    (step ((new 2 (by decide)).after [.store "x"]) (.eval 1 ⟨[]⟩)).2
      = (new 2 (by decide)).after [.store "x"] ∧
    [Call.store "x", .store "x +", .store "y", .eval 1 ⟨[]⟩, .store "x"].filter Call.stores
      = [.store "x", .store "y", .store "x"] ∧
    ((new 2 (by decide)).after [.store "x", .store "y", .store "x"]).run [.get 3]
      = ((new 2 (by decide)).after
          [.store "x", .store "x +", .store "y", .eval 1 ⟨[]⟩, .store "x"]).run [.get 3] := by
  have hcompile : (((Memo.new 2 (by decide)).after [.compile "x"]).compile "x +").1.result
      = .error (.malformed (.missingOperand .add)) := by rfl
  have hstore : (((new 2 (by decide)).after [.store "x"]).store "x +").1.result
      = .error (.invalid (.malformed (.missingOperand .add))) := by rfl
  have hread : ∀ text, Call.eval 1 ⟨[]⟩ ≠ .store text := by
    intro text h
    cases h
  have hkept : [Call.store "x", .store "x +", .store "y", .eval 1 ⟨[]⟩, .store "x"].filter
      Call.stores = [.store "x", .store "y", .store "x"] := by rfl
  obtain ⟨hmemo, hcatalogue, hreads, -, hall⟩ := refusals_change_nothing (show 0 < 2 by decide)
  obtain ⟨-, -, hlater⟩ := hall [.store "x", .store "x +", .store "y", .eval 1 ⟨[]⟩, .store "x"]
    Call.stores fun _ _ hs => hs
  rw [hkept] at hlater
  exact ⟨by decide, hcompile, hmemo _ _ _ hcompile, hstore, hcatalogue _ _ _ hstore, hread,
    hreads _ _ hread, hkept, hlater _⟩

end Catalogue

end Formulary
