import Formulary.Proofs.Memo.Recent
import Mathlib.Data.Finset.Card
import Mathlib.Data.Finset.Dedup

/-!
# Which formulas are shared

Every call about a text that has a formula is given one for it, recalled or new. No formula is given
for two texts, and what is given for a text changes only when the text has been forgotten
(`Accounts`). How far a text stands from the front of the recent ones is the number of texts used
since it was used, so a compiler of capacity `k` gives the same formula again exactly if all texts
were not forgotten at once and fewer than `k` others were used in between (`mem_take_recent_iff`).
These are put together in `given_again`.
-/

namespace Formulary

namespace Memo

/-- The text that a call is about and the formula that is given for it, if the text has one. -/
def given? (m : Memo) (call : Call) : Option (String × Compiled) := do
  let text ← call.text?
  let c ← (m.compile text).1.result.toOption
  pure (text, c)

/-- The texts that some calls are about, each with the formula that is given for it, call by call.
-/
def given (m : Memo) : List Call → List (String × Compiled)
  | [] => []
  | call :: calls => (m.given? call).toList ++ given (m.step call).2 calls

/-- The formula that an answer shows. -/
def Answer.compiled? : Answer → Option Compiled
  | compiled c | value c _ => some c
  | capacity _ | cleared | isEmpty _ => none

/-- Whether a call is about a text that has no formula. -/
def Call.isRefused (call : Call) : Bool := call.text?.isSome && call.used?.isNone

/-- Some calls spare what was used just before them, in a compiler of capacity `k`: none of them is
to forget all texts, and together they use fewer than `k` texts. -/
def Spares (k : ℕ) (calls : List Call) : Prop :=
  .clear ∉ calls ∧ (calls.filterMap Call.used?).toFinset.card < k

instance (k : ℕ) (calls : List Call) : Decidable (Spares k calls) :=
  inferInstanceAs (Decidable (_ ∧ _))

/-! ### What one call is given -/

theorem given?_eq_some_iff {m : Memo} {call : Call} {text : String} {c : Compiled} :
    m.given? call = some (text, c) ↔
      call.text? = some text ∧ (m.compile text).1.result = .ok c := by
  have hok : ∀ {x : Except Fault Compiled} {c}, x.toOption = some c ↔ x = .ok c := by
    intro x c
    cases x <;> simp [Except.toOption]
  simp only [given?, bind, Option.bind_eq_some_iff, hok, pure, Option.some.injEq, Prod.mk.injEq]
  constructor
  · rintro ⟨t, ht, d, hd, rfl, rfl⟩
    exact ⟨ht, hd⟩
  · rintro ⟨ht, hd⟩
    exact ⟨text, ht, c, hd, rfl, rfl⟩

/-- An answer shows what is given. -/
theorem compiled?_of_answer {m : Memo} {call : Call} {a : Answer}
    (h : (m.step call).1.result = .ok a) : a.compiled? = (m.given? call).map Prod.snd := by
  cases call with
  | compile text =>
    have h' : Answer.compiled <$> (m.compile text).1.result = .ok a := by
      rw [← h]
      exact (Logged.result_map ..).symm
    cases hr : (m.compile text).1.result with
    | error e =>
      rw [hr] at h'
      cases h'
    | ok c =>
      rw [hr] at h'
      cases h'
      rw [given?_eq_some_iff.2 ⟨rfl, hr⟩]
      rfl
  | eval text b =>
    have h' : (fun cx => Answer.value cx.1 cx.2) <$> (m.eval text b).1.result = .ok a := by
      rw [← h]
      exact (Logged.result_map ..).symm
    simp only [eval, Logged.result_bind, Logged.result_pure] at h'
    cases hr : (m.compile text).1.result with
    | error e =>
      rw [hr] at h'
      cases h'
    | ok c =>
      rw [hr] at h'
      obtain ⟨cx, hcx, rfl⟩ := map_eq_ok_iff.1 h'
      obtain ⟨d, hd, hcx⟩ := bind_eq_ok_iff.1 hcx
      obtain ⟨x, -, hx⟩ := bind_eq_ok_iff.1 hcx
      cases hd
      cases hx
      rw [given?_eq_some_iff.2 ⟨rfl, hr⟩]
      rfl
  | capacity | clear | isEmpty =>
    cases h
    rfl

/-- The records of a call about a text begin with those of compiling the text. -/
theorem records_compile_subset (m : Memo) {call : Call} {text : String}
    (h : call.text? = some text) : (m.compile text).1.records ⊆ (m.step call).1.records := by
  cases call with
  | compile t =>
    cases h
    show _ ⊆ (Answer.compiled <$> (m.compile text).1).records
    rw [Logged.records_map]
    exact List.Subset.refl _
  | eval t b =>
    cases h
    show _ ⊆ (_ <$> (m.eval text b).1).records
    rw [Logged.records_map]
    show _ ⊆ ((m.compile text).1 >>= _).records
    cases hr : (m.compile text).1.result with
    | error e =>
      rw [Logged.records_bind_of_error hr]
      exact List.Subset.refl _
    | ok c =>
      rw [Logged.records_bind_of_ok hr]
      exact List.subset_append_left _ _
  | capacity | clear | isEmpty => cases h

/-- Whatever is given has been found sound, so its text is used. -/
theorem IsSound.used_of_given {m : Memo} (h : m.IsSound) {call : Call} {text : String}
    {c : Compiled} (hg : m.given? call = some (text, c)) : call.used? = some text := by
  obtain ⟨htext, hr⟩ := given?_eq_some_iff.1 hg
  have hf := (h.compile text).1
  rw [hr] at hf
  exact Call.used?_eq_some_iff.2 ⟨htext, c.formula, hf.symm⟩

/-- A call about one text leaves what is kept of another as it is, or drops it. -/
theorem IsSound.peek_of_step {m : Memo} (h : m.IsSound) {call : Call} {text : String}
    (hc : call.text? ≠ some text) {c : Compiled}
    (hk : (m.step call).2.kept.peek text = some c) : m.kept.peek text = some c := by
  cases hu : call.used? with
  | none =>
    by_cases hclear : call = .clear
    · subst hclear
      cases hk
    · rwa [h.step_of_not_used hu hclear] at hk
  | some t =>
    obtain ⟨ht, f, hf⟩ := Call.used?_eq_some_iff.1 hu
    have hne : text ≠ t := by
      rintro rfl
      exact hc ht
    rw [step_of_text m ht] at hk
    obtain ⟨d, -, -, hafter⟩ | ⟨-, -, hafter⟩ := m.compile_of_used hf
    · rw [hafter] at hk
      exact Recency.peek_of_peek_put hne hk
    · rw [hafter] at hk
      exact Recency.peek_of_peek_put hne hk

/-! ### What is given in a conversation -/

theorem given_append (m : Memo) (calls calls' : List Call) :
    m.given (calls ++ calls') = m.given calls ++ (m.after calls).given calls' := by
  induction calls generalizing m with
  | nil => rfl
  | cons call calls ih => simp [given, after, ih]

theorem given_concat (m : Memo) (calls : List Call) (call : Call) :
    m.given (calls ++ [call]) = m.given calls ++ ((m.after calls).given? call).toList := by
  simp [given_append, given]

/-- The pairs `es` account for a compiler: whatever it keeps is among them, their serial numbers
have been used up, and no serial number stands for two pairs. -/
structure Accounts (es : List (String × Compiled)) (m : Memo) : Prop where
  kept : ∀ text c, m.kept.peek text = some c → (text, c) ∈ es
  serial_lt : ∀ e ∈ es, e.2.serial < m.nextSerial
  serial_inj : ∀ e ∈ es, ∀ e' ∈ es, e.2.serial = e'.2.serial → e = e'

theorem accounts_new (capacity : ℕ) (h : 0 < capacity) : Accounts [] (new capacity h) :=
  ⟨by simp [new], by simp, by simp⟩

/-- Recalling a formula gives what is accounted for already. -/
theorem Accounts.recall {m : Memo} {es : List (String × Compiled)} (h : Accounts es m)
    {text : String} {c : Compiled} (hk : m.kept.peek text = some c) :
    Accounts (es ++ [(text, c)]) ⟨m.kept.put text c, m.nextSerial⟩ := by
  have hc : (text, c) ∈ es := h.kept text c hk
  have hes : ∀ e ∈ es ++ [(text, c)], e ∈ es := by
    intro e he
    rcases List.mem_append.1 he with he | he
    · exact he
    · rwa [List.mem_singleton.1 he]
  refine ⟨?_, fun e he => h.serial_lt e (hes e he),
    fun e he e' he' => h.serial_inj e (hes e he) e' (hes e' he')⟩
  intro text' c' hc'
  rcases Recency.eq_or_peek_of_peek_put hc' with ⟨rfl, rfl⟩ | hc'
  · exact List.mem_append_left _ hc
  · exact List.mem_append_left _ (h.kept text' c' hc')

/-- A new formula has a serial number that stands for nothing yet. -/
theorem Accounts.make {m : Memo} {es : List (String × Compiled)} (h : Accounts es m)
    (text : String) (f : Formula) :
    Accounts (es ++ [(text, ⟨m.nextSerial, f⟩)])
      ⟨m.kept.put text ⟨m.nextSerial, f⟩, m.nextSerial + 1⟩ := by
  refine ⟨?_, ?_, ?_⟩
  · intro text' c' hc'
    rcases Recency.eq_or_peek_of_peek_put hc' with ⟨rfl, rfl⟩ | hc'
    · exact List.mem_append_right _ (List.mem_singleton_self _)
    · exact List.mem_append_left _ (h.kept text' c' hc')
  · intro e he
    rcases List.mem_append.1 he with he | he
    · exact Nat.lt_succ_of_lt (h.serial_lt e he)
    · rw [List.mem_singleton.1 he]
      exact Nat.lt_succ_self _
  · intro e he e' he' heq
    rcases List.mem_append.1 he with he | he <;> rcases List.mem_append.1 he' with he' | he'
    · exact h.serial_inj e he e' he' heq
    · have := h.serial_lt e he
      rw [List.mem_singleton.1 he'] at heq
      exact absurd heq (Nat.ne_of_lt this)
    · have := h.serial_lt e' he'
      rw [List.mem_singleton.1 he] at heq
      exact absurd heq.symm (Nat.ne_of_lt this)
    · rw [List.mem_singleton.1 he, List.mem_singleton.1 he']

/-- What is given by one call more is to be accounted for besides. -/
theorem Accounts.step {m : Memo} {es : List (String × Compiled)} (h : Accounts es m)
    (hm : m.IsSound) (call : Call) :
    Accounts (es ++ (m.given? call).toList) (m.step call).2 := by
  cases hu : call.used? with
  | none =>
    have hg : m.given? call = none := by
      cases hg : m.given? call with
      | none => rfl
      | some e => simp [hm.used_of_given hg] at hu
    rw [hg, Option.toList_none, List.append_nil]
    by_cases hclear : call = .clear
    · subst hclear
      exact ⟨by simp [Memo.step, Memo.clear], h.serial_lt, h.serial_inj⟩
    · rwa [hm.step_of_not_used hu hclear]
  | some text =>
    obtain ⟨htext, f, hf⟩ := Call.used?_eq_some_iff.1 hu
    rw [step_of_text m htext]
    obtain ⟨c, hk, hanswer, hafter⟩ | ⟨hk, hanswer, hafter⟩ := m.compile_of_used hf
    · have hg : m.given? call = some (text, c) := given?_eq_some_iff.2 ⟨htext, by rw [hanswer]⟩
      rw [hg, hafter]
      exact h.recall hk
    · have hg : m.given? call = some (text, ⟨m.nextSerial, f⟩) :=
        given?_eq_some_iff.2 ⟨htext, by rw [hanswer]⟩
      rw [hg, hafter]
      exact h.make text f

/-- What is given in a conversation accounts for the compiler after it. -/
theorem accounts_given {k : ℕ} (hk : 0 < k) (calls : List Call) :
    Accounts ((new k hk).given calls) ((new k hk).after calls) := by
  induction calls using List.reverseRecOn with
  | nil => exact accounts_new k hk
  | append_singleton calls call ih =>
    rw [after_concat, given_concat]
    exact ih.step ((isSound_new k hk).after calls) call

/-! ### When a text is still remembered -/

theorem sinceClear_append (calls calls' : List Call) :
    sinceClear (calls ++ calls') =
      if .clear ∈ calls' then sinceClear calls' else sinceClear calls ++ calls' := by
  induction calls' using List.reverseRecOn with
  | nil => simp
  | append_singleton calls' call ih =>
    rw [← List.append_assoc]
    by_cases hclear : call = .clear
    · simp [sinceClear, hclear]
    · have hmem : .clear ∈ calls' ++ [call] ↔ .clear ∈ calls' := by
        simp [Ne.symm hclear]
      have hconcat : ∀ cs, sinceClear (cs ++ [call]) = sinceClear cs ++ [call] := by
        intro cs
        simp [sinceClear, hclear]
      rw [hconcat, hconcat, ih]
      simp only [hmem]
      split <;> simp

/-- What stands behind a list is among the first `k` members if the list is shorter than that. -/
theorem mem_take_append_cons_iff {α : Type} {l l' : List α} {a : α} {k : ℕ} (h : a ∉ l) :
    a ∈ (l ++ a :: l').take k ↔ l.length < k := by
  rw [List.take_append, List.mem_append]
  constructor
  · rintro (hm | hm)
    · exact absurd (List.mem_of_mem_take hm) h
    · have := List.length_pos_of_mem hm
      rw [List.length_take] at this
      omega
  · intro hlt
    obtain ⟨n, hn⟩ : ∃ n, k - l.length = n + 1 := ⟨k - l.length - 1, by omega⟩
    rw [hn, List.take_succ_cons]
    exact .inr List.mem_cons_self

/-- The texts used since a text was last used stand in front of it. -/
theorem exists_recent_eq (before : List Call) {between : List Call} {call : Call} {text : String}
    (hc : call.used? = some text) (hbetween : text ∉ between.filterMap Call.used?)
    (hclear : .clear ∉ between) :
    ∃ older, recent (before ++ call :: between)
      = (between.filterMap Call.used?).dedup.reverse ++ text :: older := by
  have hcall : call ≠ .clear := by
    rintro rfl
    cases hc
  have hsince : sinceClear (before ++ call :: between)
      = sinceClear before ++ call :: between := by
    rw [sinceClear_append, if_neg (by simp [hclear, hcall.symm])]
  obtain ⟨older, holder⟩ : (text :: between.filterMap Call.used?).dedup <:+
      ((sinceClear before ++ call :: between).filterMap Call.used?).dedup := by
    rw [List.filterMap_append, List.filterMap_cons_some hc, List.dedup_append]
    exact List.suffix_union_right ..
  rw [List.dedup_cons_of_notMem hbetween] at holder
  refine ⟨older.reverse, ?_⟩
  rw [recent, hsince, ← holder]
  simp

/-- A text that was used before some calls which are not about it is among the first `k` of the
recent ones exactly if these calls spare it. -/
theorem mem_take_recent_iff {k : ℕ} {before between : List Call} {call : Call} {text : String}
    (hc : call.used? = some text) (hbetween : ∀ d ∈ between, d.text? ≠ some text) :
    text ∈ (recent (before ++ call :: between)).take k ↔ Spares k between := by
  have hnot : text ∉ between.filterMap Call.used? := by
    intro h
    obtain ⟨d, hd, hu⟩ := List.mem_filterMap.1 h
    exact hbetween d hd (Call.used?_eq_some_iff.1 hu).1
  by_cases hclear : .clear ∈ between
  · have hmem : text ∉ recent (before ++ call :: between) := by
      rw [List.append_cons, recent, sinceClear_append, if_pos hclear, List.mem_reverse,
        List.mem_dedup]
      intro h
      obtain ⟨d, hd, hu⟩ := List.mem_filterMap.1 h
      exact hnot (List.mem_filterMap.2 ⟨d, (List.rtakeWhile_suffix ..).subset hd, hu⟩)
    constructor
    · intro h
      exact absurd (List.mem_of_mem_take h) hmem
    · intro h
      exact absurd hclear h.1
  · obtain ⟨older, hrecent⟩ := exists_recent_eq before hc hnot hclear
    rw [hrecent, mem_take_append_cons_iff (by simpa using hnot), List.length_reverse, Spares,
      List.card_toFinset]
    exact ⟨fun h => ⟨hclear, h⟩, fun h => h.2⟩

/-! ### Two uses of one text -/

/-- Calls about other texts leave what is kept of a text as it is, or drop it. -/
theorem IsSound.peek_of_after {m : Memo} (h : m.IsSound) {calls : List Call} {text : String}
    (hcalls : ∀ d ∈ calls, d.text? ≠ some text) {c : Compiled}
    (hk : (m.after calls).kept.peek text = some c) : m.kept.peek text = some c := by
  induction calls generalizing m with
  | nil => exact hk
  | cons call calls ih =>
    obtain ⟨hcall, hcalls⟩ := List.forall_mem_cons.1 hcalls
    exact h.peek_of_step hcall (ih (h.step call) hcalls hk)

/-- What is given for a text is kept under it. -/
theorem peek_step_of_given {m : Memo} (h : m.IsSound) {call : Call} {text : String} {c : Compiled}
    (hg : m.given? call = some (text, c)) : (m.step call).2.kept.peek text = some c := by
  obtain ⟨htext, f, hf⟩ := Call.used?_eq_some_iff.1 (h.used_of_given hg)
  obtain ⟨-, hr⟩ := given?_eq_some_iff.1 hg
  rw [step_of_text m htext]
  obtain ⟨d, -, hanswer, hafter⟩ | ⟨-, hanswer, hafter⟩ := m.compile_of_used hf
  all_goals
    rw [hanswer] at hr
    cases hr
    rw [hafter]
    exact Recency.peek_put_self ..

/-- A call that uses a text is given a formula for it: the one that is kept, which is journaled as
recalled, or else a new one with the next serial number. -/
theorem given?_of_used (m : Memo) {call : Call} {text : String} (h : call.used? = some text) :
    ∃ c, m.given? call = some (text, c) ∧
      (m.kept.peek text = some c ∧ .recalled text ∈ (m.step call).1.records ∨
        m.kept.peek text = none ∧ .unknown text ∈ (m.step call).1.records ∧
          c.serial = m.nextSerial) := by
  obtain ⟨htext, f, hf⟩ := Call.used?_eq_some_iff.1 h
  have hrecords := records_compile_subset m htext
  obtain ⟨c, hk, hanswer, -⟩ | ⟨hk, hanswer, -⟩ := m.compile_of_used hf
  · refine ⟨c, given?_eq_some_iff.2 ⟨htext, by rw [hanswer]⟩, .inl ⟨hk, hrecords ?_⟩⟩
    rw [hanswer]
    exact List.mem_cons_self
  · refine ⟨_, given?_eq_some_iff.2 ⟨htext, by rw [hanswer]⟩, .inr ⟨hk, hrecords ?_, rfl⟩⟩
    rw [hanswer]
    exact List.mem_cons_self

/-- A text is kept after calls that are not about it exactly if they spare it. -/
theorem peek_after_isSome_iff {k : ℕ} (hk : 0 < k) (before : List Call) {between : List Call}
    {call : Call} {text : String} (hc : call.used? = some text)
    (hbetween : ∀ d ∈ between, d.text? ≠ some text) :
    ((new k hk).after (before ++ call :: between)).kept.peek text ≠ none ↔ Spares k between := by
  rw [ne_eq, Recency.peek_eq_none_iff, not_not, ← mem_take_recent_iff hc hbetween,
    ← texts_after_eq_take hk]
  rfl

/-- Calls about texts without a formula change nothing, so they may be left out. -/
theorem after_filter_isRefused {k : ℕ} (hk : 0 < k) (calls : List Call) :
    (new k hk).after (calls.filter fun call => !call.isRefused) = (new k hk).after calls := by
  induction calls using List.reverseRecOn with
  | nil => rfl
  | append_singleton calls call ih =>
    rw [List.filter_append, after_append, ih, after_concat]
    cases hr : call.isRefused with
    | false => simp [hr, after]
    | true =>
      have hclear : call ≠ .clear := by
        rintro rfl
        cases hr
      have hu : call.used? = none := by
        rw [Call.isRefused, Bool.and_eq_true, Option.isNone_iff_eq_none] at hr
        exact hr.2
      have hsound := (isSound_new k hk).after calls
      rw [hsound.step_of_not_used hu hclear]
      simp [hr, after]

/-- **When a formula is shared**: let two calls use a text, and let no call between them be about
it. The second one recalls the formula that the first one was given exactly if the calls between
them spare it, in a compiler of capacity `k`: none of them is to forget all texts, and they use
fewer than `k` other texts. Otherwise the second one is given a formula that no call was given
before. Calls for different texts are never given the same formula, and calls about texts without a
formula may be left out of any conversation. What is given is what the answers show. -/
theorem given_again {k : ℕ} (hk : 0 < k) :
    (∀ before between c c' text, c.used? = some text → c'.used? = some text →
      (∀ d ∈ between, d.text? ≠ some text) →
      ∃ p p', ((new k hk).after before).given? c = some (text, p) ∧
        ((new k hk).after (before ++ c :: between)).given? c' = some (text, p') ∧
        (.recalled text ∈ (((new k hk).after (before ++ c :: between)).step c').1.records ∧ p' = p
          ↔ Spares k between) ∧
        (¬ Spares k between →
          .unknown text ∈ (((new k hk).after (before ++ c :: between)).step c').1.records ∧
          ∀ e ∈ (new k hk).given (before ++ c :: between), e.2.serial ≠ p'.serial)) ∧
    (∀ calls, ∀ e ∈ (new k hk).given calls, ∀ e' ∈ (new k hk).given calls,
      e.1 ≠ e'.1 → e.2.serial ≠ e'.2.serial) ∧
    (∀ calls, (new k hk).after (calls.filter fun call => !call.isRefused)
      = (new k hk).after calls) ∧
    ∀ m call a, (step m call).1.result = .ok a → a.compiled? = (m.given? call).map Prod.snd := by
  refine ⟨?_, ?_, after_filter_isRefused hk, fun m call a => compiled?_of_answer⟩
  · intro before between c c' text hc hc' hbetween
    have hsound := (isSound_new k hk).after before
    have hsplit : (new k hk).after (before ++ c :: between)
        = (((new k hk).after before).step c).2.after between := after_append ..
    obtain ⟨p, hp, -⟩ := given?_of_used ((new k hk).after before) hc
    obtain ⟨p', hp', hcases⟩ := given?_of_used ((new k hk).after (before ++ c :: between)) hc'
    refine ⟨p, p', hp, hp', ?_⟩
    rw [← peek_after_isSome_iff hk before hc hbetween]
    obtain ⟨hget, hrecalled⟩ | ⟨hget, hunknown, hserial⟩ := hcases
    · have heq : p' = p := by
        have hfirst := peek_step_of_given hsound hp
        have hlast := (hsound.step c).peek_of_after hbetween (hsplit ▸ hget)
        exact Option.some.inj (hlast.symm.trans hfirst)
      simp [hget, hrecalled, heq]
    · have hfresh : ∀ e ∈ (new k hk).given (before ++ c :: between), e.2.serial ≠ p'.serial := by
        intro e he
        rw [hserial]
        exact Nat.ne_of_lt ((accounts_given hk _).serial_lt e he)
      have hne : p' ≠ p := by
        rintro rfl
        refine hfresh (text, p') ?_ rfl
        simp [given_append, given, hp]
      simp only [hget, hne, hunknown]
      simpa using hfresh
  · intro calls e he e' he' hne heq
    exact hne (congrArg Prod.fst ((accounts_given hk calls).serial_inj e he e' he' heq))

/-- Between two uses of `x`, the use of `y / z` counts although it has no value, and `(y` does not
count: with room for two texts the formula of `x` is shared, with room for one it is made anew. -/
theorem given_again_unbound :
    0 < 2 ∧ 0 < 1 ∧ Call.used? (.compile "x") = some "x" ∧ Call.used? (.eval "x" ⟨[]⟩) = some "x" ∧
    (∀ d ∈ [Call.eval "y / z" ⟨[]⟩, .compile "(y"], d.text? ≠ some "x") ∧
    (∃ p, ((new 2 (by decide)).after []).given? (.compile "x") = some ("x", p) ∧
      ((new 2 (by decide)).after ([] ++ .compile "x" :: [.eval "y / z" ⟨[]⟩, .compile "(y"])).given?
        (.eval "x" ⟨[]⟩) = some ("x", p)) ∧
    ∃ p p', ((new 1 (by decide)).after []).given? (.compile "x") = some ("x", p) ∧
      ((new 1 (by decide)).after ([] ++ .compile "x" :: [.eval "y / z" ⟨[]⟩, .compile "(y"])).given?
        (.eval "x" ⟨[]⟩) = some ("x", p') ∧ p'.serial ≠ p.serial := by
  have hc : Call.used? (.compile "x") = some "x" := by rfl
  have hc' : Call.used? (.eval "x" ⟨[]⟩) = some "x" := by rfl
  have hbetween : ∀ d ∈ [Call.eval "y / z" ⟨[]⟩, .compile "(y"], d.text? ≠ some "x" := by decide
  have hused : [Call.eval "y / z" ⟨[]⟩, .compile "(y"].filterMap Call.used? = ["y / z"] := by rfl
  have hspares : ∀ k, Spares k [Call.eval "y / z" ⟨[]⟩, .compile "(y"] ↔ 1 < k := by
    intro k
    rw [Spares, hused]
    simp
  refine ⟨by decide, by decide, hc, hc', hbetween, ?_, ?_⟩
  · obtain ⟨p, p', hp, hp', hiff, -⟩ :=
      (given_again (k := 2) (by decide)).1 [] _ _ _ _ hc hc' hbetween
    obtain ⟨-, rfl⟩ := hiff.2 ((hspares 2).2 (by decide))
    exact ⟨p', hp, hp'⟩
  · obtain ⟨p, p', hp, hp', -, hnew⟩ :=
      (given_again (k := 1) (by decide)).1 [] _ _ _ _ hc hc' hbetween
    have hfresh := (hnew (fun h => absurd ((hspares 1).1 h) (by decide))).2 ("x", p)
    refine ⟨p, p', hp, hp', fun heq => hfresh ?_ heq.symm⟩
    rw [List.nil_append, given]
    exact List.mem_append_left _ (by simp [show (new 1 (by decide)).given? _ = _ from hp])

end Memo

end Formulary
