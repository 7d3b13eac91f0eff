import Formulary.Proofs.Memo
import Mathlib.Data.List.Dedup
import Mathlib.Data.List.DropRight
import Mathlib.Data.List.Induction

/-!
# What is remembered

A call uses a text if it asks for its formula or its value and the text has a formula. The texts
used since all were last forgotten, each of them once and the one used last in front, are the recent
texts of a conversation (`recent`). A use moves its text to the front of them, so a compiler of
capacity `k` keeps the first `k` of them by dropping what does not fit at every use: dropping a text
early never makes a difference to the first `k` later (`take_cons_filter_take`). That is the main
statement, `texts_after`.
-/

namespace Formulary

/-! ### Lists in the order of last use -/

section Lists

variable {α : Type} [DecidableEq α]

/-- Moving `a` to the front of a list without repetitions, what stands beyond the first `k` places
has no influence on the first `k` places. -/
theorem take_cons_filter_take {l : List α} (hl : l.Nodup) (a : α) (k : ℕ) :
    (a :: (l.take k).filter (· ≠ a)).take k = (a :: l.filter (· ≠ a)).take k := by
  cases k with
  | zero => rfl
  | succ n =>
    rw [List.take_succ_cons, List.take_succ_cons]
    by_cases hlen : l.length ≤ n + 1
    · rw [List.take_of_length_le hlen]
    · -- at most one of the first `n + 1` members is `a`, so `n` of them are left
      have hfilter : ((l.take (n + 1)).filter (· ≠ a)) = (l.take (n + 1)).erase a := by
        rw [(hl.sublist (List.take_sublist _ _)).erase_eq_filter]
        exact List.filter_congr fun b _ => (decide_not ..).trans rfl
      have hle : n ≤ ((l.take (n + 1)).filter (· ≠ a)).length := by
        rw [hfilter, List.length_erase, List.length_take]
        split <;> omega
      conv_rhs => rw [← List.take_append_drop (n + 1) l, List.filter_append]
      rw [List.take_append_of_le_length hle]

/-- Of a list with `a` behind it, the last of all occurrences are those of the list, but for `a`,
and the new one. -/
theorem dedup_concat (l : List α) (a : α) :
    (l ++ [a]).dedup = l.dedup.filter (· ≠ a) ++ [a] := by
  induction l with
  | nil => simp
  | cons b l ih =>
    rw [List.cons_append]
    by_cases hb : b ∈ l
    · rw [List.dedup_cons_of_mem hb, List.dedup_cons_of_mem (List.mem_append_left _ hb), ih]
    · rw [List.dedup_cons_of_notMem hb]
      by_cases hba : b = a
      · subst hba
        rw [List.dedup_cons_of_mem (by simp), ih]
        simp
      · rw [List.dedup_cons_of_notMem (by simp [hb, hba]), ih]
        simp [hba]

end Lists

namespace Memo

/-! ### The texts that calls are about -/

/-- The text that a call is about. -/
def Call.text? : Call → Option String
  | compile text | eval text _ => some text
  | capacity | clear | isEmpty => none

/-- The text that a call uses: the one that it is about, if this has a formula. Whether the formula
then has a value does not matter. -/
def Call.used? (call : Call) : Option String :=
  call.text?.filter fun text => (Formula.compile text).isOk

theorem Call.used?_eq_some_iff {call : Call} {text : String} :
    call.used? = some text ↔ call.text? = some text ∧ ∃ f, Formula.compile text = .ok f := by
  rw [used?, Option.filter_eq_some_iff]
  cases Formula.compile text <;> simp [Except.isOk, Except.toBool]

/-- The calls since all texts were last forgotten. -/
def sinceClear (calls : List Call) : List Call := calls.rtakeWhile (· ≠ .clear)

/-- The texts used since all were last forgotten, each of them once, the one used last in front. -/
def recent (calls : List Call) : List String :=
  ((sinceClear calls).filterMap Call.used?).dedup.reverse

theorem nodup_recent (calls : List Call) : (recent calls).Nodup :=
  List.nodup_reverse.2 (List.nodup_dedup _)

theorem recent_concat_of_used (calls : List Call) {call : Call} {text : String}
    (h : call.used? = some text) :
    recent (calls ++ [call]) = text :: (recent calls).filter (· ≠ text) := by
  have hclear : call ≠ .clear := by
    rintro rfl
    cases h
  simp [recent, sinceClear, hclear, h, dedup_concat]

theorem recent_concat_of_not_used (calls : List Call) {call : Call} (h : call.used? = none)
    (hclear : call ≠ .clear) : recent (calls ++ [call]) = recent calls := by
  simp [recent, sinceClear, hclear, h]

theorem recent_concat_clear (calls : List Call) : recent (calls ++ [.clear]) = [] := by
  simp [recent, sinceClear]

/-! ### One call -/

/-- All calls about a text change a compiler in the same way. -/
theorem step_of_text (m : Memo) {call : Call} {text : String} (h : call.text? = some text) :
    (m.step call).2 = (m.compile text).2 := by
  cases call with
  | compile | eval =>
    cases h
    rfl
  | capacity | clear | isEmpty => cases h

/-- A compiler with something under a text recalls it, and one with nothing makes a new formula. -/
theorem compile_of_used (m : Memo) {text : String} {f : Formula}
    (h : Formula.compile text = .ok f) :
    (∃ c, m.kept.peek text = some c ∧
      (m.compile text).1 = ⟨.ok c, [.recalled text]⟩ ∧
      (m.compile text).2 = ⟨m.kept.put text c, m.nextSerial⟩) ∨
    m.kept.peek text = none ∧
      (m.compile text).1 = ⟨.ok ⟨m.nextSerial, f⟩,
        .unknown text :: (Formula.compileLogged text).records⟩ ∧
      (m.compile text).2 = ⟨m.kept.put text ⟨m.nextSerial, f⟩, m.nextSerial + 1⟩ := by
  cases hk : m.kept.peek text with
  | some c => exact .inl ⟨c, rfl, by rw [compile_of_some hk], by rw [compile_of_some hk]⟩
  | none => exact .inr ⟨rfl, by rw [compile_of_ok hk h], by rw [compile_of_ok hk h]; rfl⟩

/-- A call that uses a text moves it to the front. -/
theorem texts_step_of_used (m : Memo) {call : Call} {text : String} (h : call.used? = some text) :
    (m.step call).2.texts = (text :: m.texts.filter (· ≠ text)).take m.capacity := by
  obtain ⟨htext, f, hf⟩ := Call.used?_eq_some_iff.1 h
  rw [step_of_text m htext]
  obtain ⟨c, -, -, hafter⟩ | ⟨-, -, hafter⟩ := m.compile_of_used hf
  · rw [hafter]
    exact m.kept.keys_put text c
  · rw [hafter]
    exact m.kept.keys_put text _

/-- A call that uses no text changes nothing, unless it is to forget all texts. -/
theorem IsSound.step_of_not_used {m : Memo} (h : m.IsSound) {call : Call} (hc : call.used? = none)
    (hclear : call ≠ .clear) : (m.step call).2 = m := by
  cases htext : call.text? with
  | none =>
    cases call with
    | compile | eval => cases htext
    | clear => exact absurd rfl hclear
    | capacity | isEmpty => rfl
  | some text =>
    rw [step_of_text m htext]
    cases hf : Formula.compile text with
    | ok f => simp [Call.used?_eq_some_iff.2 ⟨htext, f, hf⟩] at hc
    | error e => rw [compile_of_error (h.peek_of_refused hf) hf]

theorem capacity_step (m : Memo) (call : Call) : (m.step call).2.capacity = m.capacity := by
  have hcompile : ∀ text, (m.compile text).2.capacity = m.capacity := by
    intro text
    cases hk : m.kept.peek text with
    | some c =>
      rw [compile_of_some hk]
      exact m.kept.capacity_put ..
    | none =>
      cases hf : Formula.compile text with
      | error e => rw [compile_of_error hk hf]
      | ok f =>
        rw [compile_of_ok hk hf]
        exact m.kept.capacity_put ..
  cases call with
  | compile text => exact hcompile text
  | eval text b => exact hcompile text
  | capacity | clear | isEmpty => rfl

theorem capacity_after (m : Memo) (calls : List Call) : (m.after calls).capacity = m.capacity := by
  induction calls generalizing m with
  | nil => rfl
  | cons call calls ih => exact (ih _).trans (m.capacity_step call)

/-! ### Conversations -/

theorem after_concat (m : Memo) (calls : List Call) (call : Call) :
    m.after (calls ++ [call]) = ((m.after calls).step call).2 :=
  m.after_append calls [call]

/-- The texts that are remembered are the first of the recent ones. -/
theorem texts_after_eq_take {k : ℕ} (hk : 0 < k) (calls : List Call) :
    ((new k hk).after calls).texts = (recent calls).take k := by
  induction calls using List.reverseRecOn with
  | nil => simp [after, new, texts, recent, sinceClear]
  | append_singleton calls call ih =>
    rw [after_concat]
    cases hu : call.used? with
    | some text =>
      rw [texts_step_of_used _ hu, ih, capacity_after, recent_concat_of_used calls hu]
      exact take_cons_filter_take (nodup_recent calls) text k
    | none =>
      by_cases hclear : call = .clear
      · subst hclear
        rw [recent_concat_clear, List.take_nil]
        rfl
      · have hsound := (isSound_new k hk).after calls
        rw [hsound.step_of_not_used hu hclear, ih, recent_concat_of_not_used calls hu hclear]

/-- **What is remembered**: after any calls, a compiler of capacity `k` remembers the first `k` of
the recent texts, in their order. No text is remembered twice, as many are remembered as there are
recent texts but no more than `k`, and none exactly if no text was used since all were last
forgotten. -/
theorem texts_after {k : ℕ} (hk : 0 < k) (calls : List Call) :
    ((new k hk).after calls).texts = (recent calls).take (min k (recent calls).length) ∧
    ((new k hk).after calls).texts.Nodup ∧
    ((new k hk).after calls).size = min k (recent calls).length ∧
    ((new k hk).after calls).size ≤ k ∧
    ((new k hk).after calls).capacity = k ∧
    (((new k hk).after calls).isEmpty = true ↔ ∀ call ∈ sinceClear calls, call.used? = none) := by
  have htexts := texts_after_eq_take hk calls
  have hsize : ((new k hk).after calls).size = min k (recent calls).length := by
    rw [← List.length_take, ← htexts]
    exact (Recency.length_keys _).symm
  refine ⟨?_, ((new k hk).after calls).kept.nodup_keys, hsize, ?_, capacity_after _ calls, ?_⟩
  · rw [htexts, ← List.take_eq_take_min]
  · rw [hsize]
    exact Nat.min_le_left _ _
  · rw [Memo.isEmpty, Recency.isEmpty_iff]
    show ((new k hk).after calls).size = 0 ↔ _
    rw [hsize]
    have hrecent : (recent calls).length = 0 ↔ ∀ call ∈ sinceClear calls, call.used? = none := by
      rw [recent, List.length_reverse, List.length_eq_zero_iff, List.dedup_eq_nil,
        List.filterMap_eq_nil_iff]
    rw [← hrecent]
    omega

/-- With room for two texts, the second use of `x` lets `y / z` go first, although that has no value
here. -/
theorem texts_after_two :
    0 < 2 ∧
    ((new 2 (by decide)).after [.compile "w", .clear, .compile "x", .eval "y / z" ⟨[]⟩,
        .compile "x", .compile "x +", .compile "z"]).texts = ["z", "x"] ∧
    ((new 2 (by decide)).after [.compile "w", .clear, .compile "x", .eval "y / z" ⟨[]⟩,
        .compile "x", .compile "x +", .compile "z"]).size = 2 := by
  have hrecent : recent [.compile "w", .clear, .compile "x", .eval "y / z" ⟨[]⟩, .compile "x",
      .compile "x +", .compile "z"] = ["z", "x", "y / z"] := by rfl
  obtain ⟨htexts, -, hsize, -⟩ := texts_after (k := 2) (by decide) [.compile "w", .clear,
    .compile "x", .eval "y / z" ⟨[]⟩, .compile "x", .compile "x +", .compile "z"]
  rw [hrecent] at htexts hsize
  exact ⟨by decide, htexts, hsize⟩

end Memo

end Formulary
