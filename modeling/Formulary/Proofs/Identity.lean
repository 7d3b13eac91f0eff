import Formulary.Proofs.Atomicity
import Formulary.Proofs.Memo.Sharing

/-!
# Equal equations and shared formulas

Two equations of a catalogue compare equal exactly if they have the same number, whenever they are
asked for (`get_beq_iff`). The comparison goes down to the numbers in their formulas, where a NaN
would not even equal itself, but no text has a formula with a NaN.

Equations with different numbers may still hold the same formula. Refusals and readings leave the
compiler of a catalogue as it is, so what it remembers is what it would remember if it had been
asked for the texts of the equations alone, in their order (`Holds`). An equation holds the formula
of the equation before it with the same text exactly if fewer than `k` texts came in between, in a
catalogue whose compiler remembers `k` texts; else its formula is new. From gap to gap, this tells
of any two equations whether they share a formula (`compiled_shared`).
-/

namespace Formulary

/-! ### Gaps -/

section Gaps

variable {α : Type} {p : α → Prop} {P : List α → Prop}

/-- Whatever stands between two successive members with `p`, as a list, has `P`. -/
def EveryGap (p : α → Prop) (P : List α → Prop) (l : List α) : Prop :=
  ∀ before a between b rest, l = before ++ a :: (between ++ b :: rest) → p a → p b →
    (∀ m ∈ between, ¬ p m) → P between

theorem everyGap_singleton (a : α) : EveryGap p P [a] := by
  intro before b between c rest h
  have hlen := congrArg List.length h
  simp only [List.length_append, List.length_cons, List.length_nil] at hlen
  omega

/-- A member with `p` is the last one, or it stands in front of it. -/
theorem append_cons_cases {l l' r r' : List α} {a b : α} (hb : p b) (hr : ∀ m ∈ r, ¬ p m)
    (h : l ++ a :: r = l' ++ b :: r') :
    (l' = l ∧ b = a ∧ r' = r) ∨ ∃ s, l = l' ++ b :: s ∧ r' = s ++ a :: r := by
  rw [List.append_eq_append_iff] at h
  obtain ⟨s, rfl, hs⟩ | ⟨s, rfl, hs⟩ := h
  · cases s with
    | nil =>
      cases hs
      exact .inl ⟨List.append_nil _, rfl, rfl⟩
    | cons c s =>
      obtain ⟨rfl, rfl⟩ := List.cons.inj hs
      exact absurd hb (hr b (by simp))
  · cases s with
    | nil =>
      cases hs
      exact .inl ⟨(List.append_nil _).symm, rfl, rfl⟩
    | cons c s =>
      obtain ⟨rfl, rfl⟩ := List.cons.inj hs
      exact .inr ⟨s, rfl, rfl⟩

/-- One gap more. -/
theorem everyGap_concat {l between : List α} {a b : α} (ha : p a) (hb : p b)
    (hbetween : ∀ m ∈ between, ¬ p m) :
    EveryGap p P (l ++ a :: (between ++ [b])) ↔ EveryGap p P (l ++ [a]) ∧ P between := by
  constructor
  · intro h
    refine ⟨?_, h l a between b [] rfl ha hb hbetween⟩
    intro before c gap d rest hl
    refine h before c gap d (rest ++ (between ++ [b])) ?_
    rw [List.append_cons, hl]
    simp
  · rintro ⟨h, hP⟩ before c gap d rest hl hc hd hgap
    rcases rest.eq_nil_or_concat with rfl | ⟨rest, e, rfl⟩
    · -- the last gap
      have hl' : (l ++ a :: between) ++ [b] = (before ++ c :: gap) ++ [d] := by simpa using hl
      obtain ⟨-, -, rfl⟩ | ⟨s, -, rfl⟩ :=
        append_cons_cases hc hbetween (List.append_inj' hl' rfl).1
      · exact hP
      · exact absurd ha (hgap a (by simp))
    · -- a gap that ends at `a` or in front of it
      have hl' : (l ++ a :: between) ++ [b] = ((before ++ c :: gap) ++ d :: rest) ++ [e] := by
        simpa using hl
      obtain ⟨hbefore, rfl, -⟩ | ⟨s, rfl, -⟩ :=
        append_cons_cases hd hbetween (List.append_inj' hl' rfl).1
      · exact h before c gap d [] (by rw [← hbefore]; simp) hc hd hgap
      · exact h before c gap d (s ++ [a]) (by simp) hc hd hgap

end Gaps

namespace Catalogue

/-! ### Equal equations -/

theorem keeps_after {capacity : ℕ} (h : 0 < capacity) {calls : List Call}
    (hcalls : calls.countP Call.stores < 2 ^ 64) :
    Keeps ((new capacity h).after calls) (Ledger.empty.after calls) :=
  ((Keeps.new capacity h).run (Ledger.size_after_empty calls ▸ hcalls)).2.1

/-- What is found under a number at some moment is found there at any later one. -/
theorem get_of_isPrefix {capacity : ℕ} (h : 0 < capacity) {earlier calls : List Call}
    (hearlier : earlier <+: calls) (hcalls : calls.countP Call.stores < 2 ^ 64) {id : UInt64}
    {e : Equation} (he : ((new capacity h).after earlier).get id = .ok e) :
    ((new capacity h).after calls).get id = .ok e := by
  obtain ⟨later, rfl⟩ := hearlier
  have hkeeps : Keeps ((new capacity h).after earlier) (Ledger.empty.after earlier) := by
    rw [List.countP_append] at hcalls
    exact keeps_after h (Nat.lt_of_le_of_lt (Nat.le_add_right _ _) hcalls)
  have hroom : ((Ledger.empty.after earlier).after later).size < 2 ^ 64 := by
    rwa [Ledger.size_after, Ledger.size_after_empty, ← List.countP_append]
  rw [after_append]
  exact hkeeps.get_after hroom he

/-- Two equations of one catalogue compare equal exactly if they have the same number. -/
theorem Keeps.beq_iff {c : Catalogue} {l : Ledger} (h : Keeps c l) {i j : UInt64} {e f : Equation}
    (he : c.get i = .ok e) (hf : c.get j = .ok f) : (e == f) = true ↔ i = j := by
  have hsame := h.same i j
  rw [Catalogue.same, Ledger.same, ← h.get, ← h.get, he, hf] at hsame
  have hbeq : (e == f) = decide (i = j) := Except.ok.inj hsame
  rw [hbeq, decide_eq_true_iff]

/-- **Equations are their numbers.** Let two equations be found under two numbers, at any two
moments of a conversation. They compare equal exactly if the numbers are the same. So every equation
equals itself, although a formula need not: a NaN is not the same as itself. -/
theorem get_beq_iff {capacity : ℕ} (h : 0 < capacity) {calls : List Call}
    (hcalls : calls.countP Call.stores < 2 ^ 64) :
    (∀ first second a b e f, first <+: calls → second <+: calls →
      ((new capacity h).after first).get a = .ok e →
      ((new capacity h).after second).get b = .ok f →
      ((e == f) = true ↔ a = b) ∧ (e == e) = true) ∧
    ∃ f : Formula, (f == f) = false := by
  refine ⟨?_, .const Number.notANumber, by decide +kernel⟩
  intro first second a b e f hfirst hsecond he hf
  have hkeeps := keeps_after h hcalls
  have he' := get_of_isPrefix h hfirst hcalls he
  have hf' := get_of_isPrefix h hsecond hcalls hf
  exact ⟨hkeeps.beq_iff he' hf', (hkeeps.beq_iff he' he').2 rfl⟩

/-- With room for one formula only, that of the first `x` is forgotten and made anew for the third
equation: that one is another equation with the same text, and the first one is still itself. -/
theorem get_beq_iff_forgotten :
    [Call.store "x", .store "y", .store "x"].countP Call.stores < 2 ^ 64 ∧
    [Call.store "x"] <+: [.store "x", .store "y", .store "x"] ∧
    ((new 1 (by decide)).after [.store "x"]).get 1 = .ok ⟨1, "x", ⟨0, .var 'x'⟩⟩ ∧
    ((new 1 (by decide)).after [.store "x", .store "y", .store "x"]).get 3
      = .ok ⟨3, "x", ⟨2, .var 'x'⟩⟩ ∧
    ((⟨1, "x", ⟨0, .var 'x'⟩⟩ : Equation) == ⟨3, "x", ⟨2, .var 'x'⟩⟩) = false ∧
    ((⟨1, "x", ⟨0, .var 'x'⟩⟩ : Equation) == ⟨1, "x", ⟨0, .var 'x'⟩⟩) = true := by
  have hcalls : [Call.store "x", .store "y", .store "x"].countP Call.stores < 2 ^ 64 := by
    decide +kernel
  have hfirst : [Call.store "x"] <+: [.store "x", .store "y", .store "x"] := ⟨_, rfl⟩
  have h1 : ((new 1 (by decide)).after [.store "x"]).get 1 = .ok ⟨1, "x", ⟨0, .var 'x'⟩⟩ := by rfl
  have h3 : ((new 1 (by decide)).after [.store "x", .store "y", .store "x"]).get 3
      = .ok ⟨3, "x", ⟨2, .var 'x'⟩⟩ := by rfl
  obtain ⟨hiff, hself⟩ := (get_beq_iff (by decide) hcalls).1 _ _ _ _ _ _ hfirst
    (List.prefix_refl _) h1 h3
  exact ⟨hcalls, hfirst, h1, h3, Bool.eq_false_iff.2 fun h => absurd (hiff.1 h) (by decide), hself⟩

/-! ### What the compiler of a catalogue has been asked -/

/-- The questions to a compiler for the texts of some equations. -/
def asked (es : List Equation) : List Memo.Call := es.map fun e => .compile e.text

/-- Every equation holds what a compiler gives for its text when it has been asked for the texts of
the equations in front of it. -/
def IsGiven {k : ℕ} (hk : 0 < k) (es : List Equation) : Prop :=
  ∀ before e rest, es = before ++ e :: rest →
    (((Memo.new k hk).after (asked before)).compile e.text).1.result = .ok e.compiled

/-- The compiler of a catalogue remembers what it would remember if it had been asked for the texts
of the equations alone, and the equations hold what it gave. -/
structure Holds {k : ℕ} (hk : 0 < k) (c : Catalogue) : Prop where
  memo : c.memo = (Memo.new k hk).after (asked c.equations)
  isGiven : IsGiven hk c.equations

section

variable {k : ℕ} {hk : 0 < k}

theorem asked_append (es fs : List Equation) : asked (es ++ fs) = asked es ++ asked fs :=
  List.map_append

theorem asked_cons (e : Equation) (es : List Equation) :
    asked (e :: es) = .compile e.text :: asked es := rfl

theorem IsGiven.of_append {es fs : List Equation} (h : IsGiven hk (es ++ fs)) : IsGiven hk es :=
  fun before e rest hes => h before e (rest ++ fs) (by rw [hes]; simp)

theorem IsGiven.concat {es : List Equation} {e : Equation} (h : IsGiven hk es)
    (he : (((Memo.new k hk).after (asked es)).compile e.text).1.result = .ok e.compiled) :
    IsGiven hk (es ++ [e]) := by
  intro before f rest hes
  rcases rest.eq_nil_or_concat with rfl | ⟨rest, g, rfl⟩
  · obtain ⟨rfl, hef⟩ := List.append_inj' hes rfl
    cases hef
    exact he
  · have hes' : es ++ [e] = (before ++ f :: rest) ++ [g] := by simpa using hes
    exact h before f rest (List.append_inj' hes' rfl).1

theorem holds_new (hk : 0 < k) : Holds hk (new k hk) := by
  refine ⟨rfl, ?_⟩
  intro before e rest h
  cases before <;> cases h

/-- A call that is refused, or that reads, leaves everything as it is; and a text that is put in
goes to the end. -/
theorem Holds.step {c : Catalogue} {l : Ledger} (h : Holds hk c) (hc : Keeps c l) {call : Call}
    (hroom : (l.step call).2.size < 2 ^ 64) : Holds hk (c.step call).2 := by
  cases hs : call.stores with
  | false => rwa [step_of_not_stores hc.memo hs]
  | true =>
    rw [Ledger.size_step, hs, if_pos rfl] at hroom
    cases call with
    | get | all | eval | same | isEmpty => cases hs
    | store text =>
      show Holds hk (c.store text).2
      cases hmade : (c.memo.compile text).1.result with
      | error e =>
        have hnot := (exists_store_eq_error_iff hc.memo text).1 ⟨_, (store_of_error hmade).1⟩
        cases hnot.symm.trans hs
      | ok compiled =>
        rw [(store_of_ok hmade).2, insertById_eq_append fun e he => hc.lt_nextId hroom he]
        rw [h.memo] at hmade ⊢
        refine ⟨?_, h.isGiven.concat hmade⟩
        rw [asked_append, Memo.after_append]
        rfl

theorem holds_after (hk : 0 < k) {calls : List Call} (hcalls : calls.countP Call.stores < 2 ^ 64) :
    Holds hk ((new k hk).after calls) := by
  induction calls using List.reverseRecOn with
  | nil => exact holds_new hk
  | append_singleton calls call ih =>
    have hroom : (((Ledger.empty.after calls).step call).2).size < 2 ^ 64 := by
      rwa [Ledger.size_step, Ledger.size_after_empty, ← List.countP_singleton, ← List.countP_append]
    rw [List.countP_append] at hcalls
    have hcalls' := Nat.lt_of_le_of_lt (Nat.le_add_right _ _) hcalls
    rw [after_append]
    exact (ih hcalls').step (keeps_after hk hcalls') hroom

/-! ### What was given for the texts -/

theorem IsGiven.given? {before rest : List Equation} {e : Equation}
    (h : IsGiven hk (before ++ e :: rest)) :
    ((Memo.new k hk).after (asked before)).given? (.compile e.text) = some (e.text, e.compiled) :=
  Memo.given?_eq_some_iff.2 ⟨rfl, h before e rest rfl⟩

/-- The text of an equation has a formula, so asking for it is a use. -/
theorem IsGiven.used? {es : List Equation} (h : IsGiven hk es) {e : Equation} (he : e ∈ es) :
    Memo.Call.used? (.compile e.text) = some e.text := by
  obtain ⟨before, rest, rfl⟩ := List.append_of_mem he
  exact ((Memo.isSound_new k hk).after _).used_of_given h.given?

theorem IsGiven.given_asked {es : List Equation} (h : IsGiven hk es) :
    (Memo.new k hk).given (asked es) = es.map fun e => (e.text, e.compiled) := by
  induction es using List.reverseRecOn with
  | nil => rfl
  | append_singleton es e ih =>
    rw [asked_append, asked_cons, List.map_append, ← ih h.of_append]
    exact (Memo.given_concat ..).trans (by rw [h.given?]; rfl)

/-- The questions for some equations spare what was used before if fewer than `k` texts are among
them. -/
theorem spares_asked_iff {es : List Equation}
    (h : ∀ e ∈ es, Memo.Call.used? (.compile e.text) = some e.text) :
    Memo.Spares k (asked es) ↔ (es.map Equation.text).toFinset.card < k := by
  have hused : (asked es).filterMap Memo.Call.used? = es.map Equation.text := by
    rw [asked, List.filterMap_map, ← List.filterMap_eq_map]
    exact List.filterMap_congr h
  have hclear : .clear ∉ asked es := by simp [asked]
  rw [Memo.Spares, hused]
  exact and_iff_right hclear

/-- **One gap**: an equation shares the formula of the last one before it with the same text if
fewer than `k` texts came in between. Else its formula is none of those before it. -/
theorem IsGiven.compiled_again {before between rest : List Equation} {g g' : Equation}
    (h : IsGiven hk (before ++ g :: (between ++ g' :: rest))) (htext : g'.text = g.text)
    (hbetween : ∀ m ∈ between, m.text ≠ g.text) :
    (between.map Equation.text).toFinset.card < k ∧ g'.compiled = g.compiled ∨
      ¬ (between.map Equation.text).toFinset.card < k ∧
        ∀ m ∈ before ++ g :: between, m.compiled.serial ≠ g'.compiled.serial := by
  have hsound := (Memo.isSound_new k hk).after (asked before)
  have hg := h.given?
  have hu := h.used? (e := g) (by simp)
  have hu' := h.used? (e := g') (by simp)
  have hspares : Memo.Spares k (asked between) ↔ _ :=
    spares_asked_iff fun m hm => h.used? (by simp [hm])
  have hothers : ∀ d ∈ asked between, d.text? ≠ some g.text := by
    intro d hd
    obtain ⟨m, hm, rfl⟩ := List.mem_map.1 hd
    exact fun heq => hbetween m hm (Option.some.inj heq)
  have hkept := Memo.peek_after_isSome_iff hk (asked before) hu hothers
  rw [hspares] at hkept
  have hcut : before ++ g :: (between ++ g' :: rest) = (before ++ g :: between) ++ g' :: rest := by
    simp
  have hasked : asked (before ++ g :: between)
      = asked before ++ .compile g.text :: asked between := asked_append ..
  rw [hcut] at h
  have hg' := h.given?
  have hgiven := h.of_append.given_asked
  rw [hasked] at hg' hgiven
  obtain ⟨c, hc, hcases⟩ := Memo.given?_of_used
    ((Memo.new k hk).after (asked before ++ .compile g.text :: asked between)) hu'
  cases hc.symm.trans hg'
  rw [htext] at hcases
  obtain ⟨hget, -⟩ | ⟨hget, -, hserial⟩ := hcases
  · refine .inl ⟨hkept.1 (by simp [hget]), ?_⟩
    have hfirst := Memo.peek_step_of_given hsound hg
    rw [Memo.after_append] at hget
    have hlast := (hsound.step _).peek_of_after hothers hget
    exact Option.some.inj (hlast.symm.trans hfirst)
  · refine .inr ⟨fun hlt => hkept.2 hlt hget, ?_⟩
    intro m hm
    have hmem : (m.text, m.compiled) ∈ (Memo.new k hk).given
        (asked before ++ .compile g.text :: asked between) := by
      rw [hgiven]
      exact List.mem_map_of_mem hm
    rw [hserial]
    exact Nat.ne_of_lt ((Memo.accounts_given hk _).serial_lt _ hmem)

/-- Equations that share a formula have the same text, and the formula is the same. -/
theorem IsGiven.eq_of_serial_eq {es : List Equation} (h : IsGiven hk es) {e f : Equation}
    (he : e ∈ es) (hf : f ∈ es) (hserial : e.compiled.serial = f.compiled.serial) :
    e.text = f.text ∧ e.compiled = f.compiled := by
  have hinj := (Memo.accounts_given hk (asked es)).serial_inj
  rw [h.given_asked] at hinj
  exact Prod.mk.inj (hinj _ (List.mem_map_of_mem he) _ (List.mem_map_of_mem hf) hserial)

/-- Fewer than `k` texts are among some equations. -/
def Few (k : ℕ) (es : List Equation) : Prop := (es.map Equation.text).toFinset.card < k

instance (k : ℕ) (es : List Equation) : Decidable (Few k es) := inferInstanceAs (Decidable (_ < _))

/-- **From gap to gap**: two equations with the same text share their formula exactly if fewer than
`k` texts came in every gap between those with this text. The induction takes the equations in
between from the back, `between` being those that are known to have other texts. -/
theorem IsGiven.serial_eq_iff {before mid between rest : List Equation} {e f : Equation}
    (h : IsGiven hk (before ++ e :: (mid ++ (between ++ f :: rest)))) (htext : f.text = e.text)
    (hbetween : ∀ m ∈ between, m.text ≠ e.text) :
    e.compiled.serial = f.compiled.serial ↔
      EveryGap (·.text = e.text) (Few k) (e :: (mid ++ (between ++ [f]))) := by
  induction mid using List.reverseRecOn generalizing between f rest with
  | nil =>
    have hgap := everyGap_concat (P := Few k) (p := (·.text = e.text)) (l := []) rfl htext hbetween
    rw [List.nil_append, List.nil_append] at hgap
    rw [List.nil_append, hgap, and_iff_right (everyGap_singleton e)]
    obtain ⟨hfew, heq⟩ | ⟨hmany, hnew⟩ := h.compiled_again htext hbetween
    · exact iff_of_true (congrArg _ heq.symm) hfew
    · exact iff_of_false (hnew e (by simp)) hmany
  | append_singleton mid g ih =>
    by_cases hg : g.text = e.text
    · have hgap := everyGap_concat (P := Few k) (p := (·.text = e.text)) (l := e :: mid) hg htext
        hbetween
      have hfirst : IsGiven hk (before ++ e :: (mid ++ ([] ++ g :: (between ++ f :: rest)))) := by
        simpa using h
      have hprefix := ih hfirst hg (List.forall_mem_nil _)
      have hlast : IsGiven hk ((before ++ e :: mid) ++ g :: (between ++ f :: rest)) := by
        simpa using h
      simp only [List.append_assoc, List.nil_append, List.cons_append] at hgap hprefix ⊢
      rw [hgap, ← hprefix]
      obtain ⟨hfew, heq⟩ | ⟨hmany, hnew⟩ :=
        hlast.compiled_again (htext.trans hg.symm) fun m hm => hg ▸ hbetween m hm
      · rw [heq]
        exact (and_iff_left hfew).symm
      · exact iff_of_false (hnew e (by simp)) fun hand => hmany hand.2
    · have hothers : ∀ m ∈ g :: between, m.text ≠ e.text := List.forall_mem_cons.2 ⟨hg, hbetween⟩
      have hshift : IsGiven hk (before ++ e :: (mid ++ (g :: between ++ f :: rest))) := by
        simpa using h
      simpa using ih hshift htext hothers

end

/-! ### Numbers -/

/-- The equations of a conversation stand in the order of their numbers, also when numbers have run
out. -/
theorem pairwise_after {capacity : ℕ} (h : 0 < capacity) (calls : List Call) :
    ((new capacity h).after calls).equations.Pairwise fun e f => e.id < f.id := by
  induction calls using List.reverseRecOn with
  | nil => exact List.Pairwise.nil
  | append_singleton calls call ih =>
    rw [after_append]
    show (((new capacity h).after calls).step call).2.equations.Pairwise _
    cases call with
    | store text =>
      show (((new capacity h).after calls).store text).2.equations.Pairwise _
      cases hmade : (((new capacity h).after calls).memo.compile text).1.result with
      | error e => rwa [(store_of_error hmade).2]
      | ok compiled =>
        rw [(store_of_ok hmade).2]
        exact pairwise_insertById _ ih
    | get | all | eval | same | isEmpty => exact ih

/-- Under its number there is every equation that is listed. -/
theorem get_eq_ok_iff_mem {c : Catalogue} (h : c.equations.Pairwise fun e f => e.id < f.id)
    {id : UInt64} {e : Equation} : c.get id = .ok e ↔ e ∈ c.equations ∧ e.id = id := by
  refine ⟨Keeps.of_get, ?_⟩
  rintro ⟨he, rfl⟩
  obtain ⟨before, rest, hes⟩ := List.append_of_mem he
  rw [hes, List.pairwise_append] at h
  have hbefore : before.find? (fun f => f.id = e.id) = none := by
    rw [List.find?_eq_none]
    intro f hf
    simpa using UInt64.ne_of_lt (h.2.2 f hf e List.mem_cons_self)
  rw [get_eq_ok_iff, hes, List.find?_append, hbefore, Option.none_or, List.find?_cons,
    decide_eq_true rfl]

/-- The equations with the numbers from `i` to `j`. -/
def numbered (c : Catalogue) (i j : UInt64) : List Equation :=
  c.equations.filter fun e => decide (i ≤ e.id ∧ e.id ≤ j)

/-- The equations with the numbers from one to another begin with the one and end with the other. -/
theorem exists_numbered_eq {c : Catalogue} (h : c.equations.Pairwise fun e f => e.id < f.id)
    {e f : Equation} (he : e ∈ c.equations) (hf : f ∈ c.equations) (hlt : e.id < f.id) :
    ∃ before mid rest, c.equations = before ++ e :: (mid ++ f :: rest) ∧
      c.numbered e.id f.id = e :: (mid ++ [f]) := by
  obtain ⟨before, behind, hes⟩ := List.append_of_mem he
  rw [hes] at h hf
  obtain ⟨-, hbehind, hbefore⟩ := List.pairwise_append.1 h
  have hmem : f ∈ behind := by
    rcases List.mem_append.1 hf with hf | hf
    · exact absurd (hbefore f hf e List.mem_cons_self) (UInt64.lt_asymm hlt)
    · exact (List.mem_cons.1 hf).resolve_left fun heq => UInt64.lt_irrefl _ (heq ▸ hlt)
  obtain ⟨mid, rest, rfl⟩ := List.append_of_mem hmem
  obtain ⟨hfirst, hbehind⟩ := List.pairwise_cons.1 hbehind
  obtain ⟨-, hlast, hmid⟩ := List.pairwise_append.1 hbehind
  have hdropBefore : before.filter (fun m => decide (e.id ≤ m.id ∧ m.id ≤ f.id)) = [] := by
    rw [List.filter_eq_nil_iff]
    intro m hm
    have hme := hbefore m hm e List.mem_cons_self
    simpa using fun hle => absurd hme (UInt64.not_lt.2 hle)
  have hkeepMid : mid.filter (fun m => decide (e.id ≤ m.id ∧ m.id ≤ f.id)) = mid := by
    rw [List.filter_eq_self]
    intro m hm
    have hem := hfirst m (List.mem_append_left _ hm)
    have hmf := hmid m hm f List.mem_cons_self
    simpa using ⟨UInt64.le_of_lt hem, UInt64.le_of_lt hmf⟩
  have hdropRest : rest.filter (fun m => decide (e.id ≤ m.id ∧ m.id ≤ f.id)) = [] := by
    rw [List.filter_eq_nil_iff]
    intro m hm
    have hfm := (List.pairwise_cons.1 hlast).1 m hm
    simpa using fun _ => UInt64.not_le.2 hfm
  refine ⟨before, mid, rest, hes, ?_⟩
  have hle := UInt64.le_of_lt hlt
  rw [numbered, hes, List.filter_append, hdropBefore, List.nil_append, List.filter_cons_of_pos,
    List.filter_append, hkeepMid, List.filter_cons_of_pos, hdropRest]
  · simpa using hle
  · simpa using hle

/-- What is put in is found and listed under its number ever after. -/
theorem get_after_store {k : ℕ} (hk : 0 < k) {earlier later : List Call} {text : String}
    {id : UInt64} (hcalls : (earlier ++ .store text :: later).countP Call.stores < 2 ^ 64)
    (hid : (((new k hk).after earlier).store text).1.result = .ok id) :
    ∃ compiled, (((new k hk).after earlier).memo.compile text).1.result = .ok compiled ∧
      ((new k hk).after (earlier ++ .store text :: later)).get id = .ok ⟨id, text, compiled⟩ := by
  cases hmade : (((new k hk).after earlier).memo.compile text).1.result with
  | error e => cases hid.symm.trans (store_of_error hmade).1
  | ok compiled =>
    obtain ⟨hanswer, hafter⟩ := store_of_ok hmade
    cases hid.symm.trans hanswer
    refine ⟨compiled, rfl, ?_⟩
    have hprefix : earlier ++ [.store text] <+: earlier ++ .store text :: later := ⟨later, by simp⟩
    refine get_of_isPrefix hk hprefix hcalls ?_
    rw [after_append]
    show (((new k hk).after earlier).store text).2.get _ = _
    rw [hafter, get_eq_ok_iff, find?_insertById, if_pos rfl]

/-- **Which equations share a formula.** An equation is found and listed with the formula that its
text was given when it was put in, at every later moment. Two equations share their formula exactly
if they have the same text and fewer than `k` texts were put in between each two successive ones
with this text from the one to the other, in a catalogue whose compiler remembers `k` texts.
Formulas that are shared are the same formula. -/
theorem compiled_shared {k : ℕ} (hk : 0 < k) {calls : List Call}
    (hcalls : calls.countP Call.stores < 2 ^ 64) :
    (∀ earlier text later id, earlier ++ .store text :: later <+: calls →
      (((new k hk).after earlier).store text).1.result = .ok id →
      ∃ compiled, (((new k hk).after earlier).memo.compile text).1.result = .ok compiled ∧
        ((new k hk).after (earlier ++ .store text :: later)).get id = .ok ⟨id, text, compiled⟩ ∧
        ∀ e, e ∈ ((new k hk).after (earlier ++ .store text :: later)).equations ∧ e.id = id ↔
          e = ⟨id, text, compiled⟩) ∧
    ∀ i j e f, i < j → ((new k hk).after calls).get i = .ok e →
      ((new k hk).after calls).get j = .ok f →
      (e.compiled.serial = f.compiled.serial ↔ e.text = f.text ∧
        EveryGap (·.text = e.text) (Few k) (((new k hk).after calls).numbered i j)) ∧
      (e.compiled.serial = f.compiled.serial → e.compiled = f.compiled) := by
  constructor
  · intro earlier text later id hprefix hid
    have hcalls' := Nat.lt_of_le_of_lt hprefix.sublist.countP_le hcalls
    obtain ⟨compiled, hmade, hget⟩ := get_after_store hk hcalls' hid
    refine ⟨compiled, hmade, hget, ?_⟩
    intro e
    rw [← get_eq_ok_iff_mem (pairwise_after hk _), hget, Except.ok.injEq, eq_comm]
  · intro i j e f hlt he hf
    obtain ⟨hmem, rfl⟩ := Keeps.of_get he
    obtain ⟨hmem', rfl⟩ := Keeps.of_get hf
    have hgiven := (holds_after hk hcalls).isGiven
    obtain ⟨before, mid, rest, hes, hnumbered⟩ :=
      exists_numbered_eq (pairwise_after hk calls) hmem hmem' hlt
    have hgaps : e.text = f.text → (e.compiled.serial = f.compiled.serial ↔
        EveryGap (·.text = e.text) (Few k) (((new k hk).after calls).numbered e.id f.id)) := by
      intro htext
      have hcut : IsGiven hk (before ++ e :: (mid ++ ([] ++ f :: rest))) := hes ▸ hgiven
      rw [hnumbered]
      exact hcut.serial_eq_iff htext.symm (List.forall_mem_nil _)
    refine ⟨⟨fun hserial => ?_, fun ⟨htext, hall⟩ => (hgaps htext).2 hall⟩, fun hserial => ?_⟩
    · have htext := (hgiven.eq_of_serial_eq hmem hmem' hserial).1
      exact ⟨htext, (hgaps htext).1 hserial⟩
    · exact (hgiven.eq_of_serial_eq hmem hmem' hserial).2

/-- With room for two formulas, that of `x` outlives `y`, since the text that is refused does not
count, and the third equation shares it. It does not outlive `z` and `y` together, so that the last
equation has a new one, while the third keeps its own. -/
theorem compiled_shared_twice :
    ∃ calls, calls = [Call.store "x", .store "y", .store "x y", .store "x", .store "z", .store "y",
        .store "x"] ∧
      0 < 2 ∧ calls.countP Call.stores < 2 ^ 64 ∧
      (((new 2 (by decide)).after [.store "x", .store "y", .store "x y"]).store "x").1.result
        = .ok 3 ∧
      ∃ e e' e'' : Equation, ((new 2 (by decide)).after calls).get 1 = .ok e ∧
        ((new 2 (by decide)).after calls).get 3 = .ok e' ∧
        ((new 2 (by decide)).after calls).get 6 = .ok e'' ∧
        e.compiled = e'.compiled ∧ e.compiled.serial ≠ e''.compiled.serial := by
  obtain ⟨calls, hc⟩ : ∃ calls, calls = [Call.store "x", .store "y", .store "x y", .store "x",
    .store "z", .store "y", .store "x"] := ⟨_, rfl⟩
  have hcalls : calls.countP Call.stores < 2 ^ 64 := by
    rw [hc]
    decide +kernel
  have hid : (((new 2 (by decide)).after [.store "x", .store "y", .store "x y"]).store "x").1.result
      = .ok 3 := by rfl
  have hprefix : [Call.store "x", .store "y", .store "x y"] ++ .store "x" ::
      [.store "z", .store "y", .store "x"] <+: calls := hc ▸ List.prefix_refl _
  have h1 : ((new 2 (by decide)).after calls).get 1 = .ok ⟨1, "x", ⟨0, .var 'x'⟩⟩ := by
    rw [hc]
    rfl
  have h6 : ((new 2 (by decide)).after calls).get 6 = .ok ⟨6, "x", ⟨4, .var 'x'⟩⟩ := by
    rw [hc]
    rfl
  have hfirst : ((new 2 (by decide)).after calls).numbered 1 3
      = ⟨1, "x", ⟨0, .var 'x'⟩⟩ :: ([⟨2, "y", ⟨1, .var 'y'⟩⟩] ++ [⟨3, "x", ⟨0, .var 'x'⟩⟩]) := by
    rw [hc]
    rfl
  have hall : ((new 2 (by decide)).after calls).numbered 1 6
      = [⟨1, "x", ⟨0, .var 'x'⟩⟩, ⟨2, "y", ⟨1, .var 'y'⟩⟩] ++ ⟨3, "x", ⟨0, .var 'x'⟩⟩ ::
        ([⟨4, "z", ⟨2, .var 'z'⟩⟩, ⟨5, "y", ⟨3, .var 'y'⟩⟩] ++ [⟨6, "x", ⟨4, .var 'x'⟩⟩]) := by
    rw [hc]
    rfl
  obtain ⟨hkept, hshared⟩ := compiled_shared (show 0 < 2 by decide) hcalls
  obtain ⟨compiled, -, hget, -⟩ := hkept _ _ _ _ hprefix hid
  have h3 : ((new 2 (by decide)).after calls).get 3 = .ok ⟨3, "x", compiled⟩ := by
    rw [hc]
    exact hget
  refine ⟨calls, hc, by decide, hcalls, hid, _, _, _, h1, h3, h6, ?_, ?_⟩
  · obtain ⟨hiff, heq⟩ := hshared _ _ _ _ (by decide) h1 h3
    refine heq (hiff.2 ⟨rfl, ?_⟩)
    rw [hfirst]
    have hfew : Few 2 [⟨2, "y", ⟨1, .var 'y'⟩⟩] := by decide
    exact (everyGap_concat (l := []) (p := fun e : Equation => e.text = "x") rfl rfl (by simp)).2
      ⟨everyGap_singleton _, hfew⟩
  · intro hserial
    obtain ⟨-, hgaps⟩ := (hshared _ _ _ _ (by decide) h1 h6).1.1 hserial
    rw [hall] at hgaps
    have hmany : ¬ Few 2 [⟨4, "z", ⟨2, .var 'z'⟩⟩, ⟨5, "y", ⟨3, .var 'y'⟩⟩] := by decide
    rw [everyGap_concat (p := fun e : Equation => e.text = "x") rfl rfl (by simp)] at hgaps
    exact hmany hgaps.2

end Catalogue

end Formulary
