import Formulary.Formula.Phrase
import Formulary.Proofs.Outcome
import Formulary.Token.ReversePolish
import Mathlib.Data.List.Induction
import Mathlib.Data.Nat.Init

/-!
# Loose phrases

The grammar of formulas asks for one operand on each side of an operator. The siding does not: it
brings any row of tokens whose brackets pair up into reverse Polish order. What it makes of such a
row is described here by a grammar of its own, in which the place of an operand may hold any number
of operands and brackets, also none.

The main statement, `reversePolish_eq_ok_iff`, says that a row is a loose phrase of the first level
with the order `p` exactly if `p` is what the siding gives. In one direction the siding is followed
through a loose phrase: all it leaves waiting are operators of the phrase's level or above
(`feed_loosePhrase`). In the other a row that has been taken in is cut at the brackets that are
still open, and each piece is a loose phrase (`pieces_of_feed`).
-/

namespace Formulary

open Formula (atomLevel)

/-- The tokens `ts` are a loose phrase of level `k`, and `p` is their reverse Polish order: each
operator behind all that stands on both of its sides. -/
inductive LoosePhrase : Nat → List Token → List Token → Prop where
  /-- An empty place. -/
  | blank : LoosePhrase atomLevel [] []
  /-- A place with one operand more. -/
  | operand {ts p : List Token} {t : Token} :
      t.isOperand = true → LoosePhrase atomLevel ts p → LoosePhrase atomLevel (ts ++ [t]) (p ++ [t])
  /-- A place with one pair of brackets more. -/
  | bracketed {ts us p q : List Token} :
      LoosePhrase atomLevel ts p → LoosePhrase 1 us q →
      LoosePhrase atomLevel (ts ++ (.opening :: us ++ [.closing])) (p ++ q)
  /-- A phrase that binds tighter than it needs to. -/
  | tighter {k : Nat} {ts p : List Token} :
      1 ≤ k → LoosePhrase (k + 1) ts p → LoosePhrase k ts p
  /-- Two phrases and an operator between them. -/
  | binary {ts us p q : List Token} (op : Operator) :
      LoosePhrase op.level ts p → LoosePhrase (op.level + 1) us q →
      LoosePhrase op.level (ts ++ .operator op :: us) (p ++ q ++ [.operator op])

theorem LoosePhrase.singleton {t : Token} (ht : t.isOperand = true) :
    LoosePhrase atomLevel [t] [t] := by
  have h := LoosePhrase.operand ht .blank
  exact h

/-- A phrase is a loose phrase, in the order of its formula. -/
theorem Formula.Phrase.loosePhrase {k : Nat} {ts : List Token} {f : Formula} (h : Phrase k ts f) :
    LoosePhrase k ts f.toReversePolish := by
  induction h with
  | number | name => exact .singleton rfl
  | bracketed _ ih => exact .bracketed .blank ih
  | tighter hk _ ih => exact .tighter hk ih
  | binary op _ _ ihl ihr => exact .binary op ihl ihr

/-! ### The siding follows a loose phrase -/

namespace Siding

theorem release_append (ps qs : List Operator) (ts : List Token) :
    release (ps ++ qs) ts = release qs (release ps ts) := by
  simp [release]

theorem feed_append_of_ok {s s' : Siding} {ts : List Token} (h : s.feed ts = .ok s')
    (us : List Token) : s.feed (ts ++ us) = s'.feed us := by
  rw [feed_append, h]
  rfl

/-- An operator drives out those above it that bind as tightly, and stops at one that does not. -/
theorem step_operator_append {left : List Token} {ps waiting : List Operator}
    {outer : List (List Operator)} {op : Operator} (hps : ∀ o ∈ ps, op.precedence ≤ o.precedence)
    (hw : ∀ o ∈ waiting.head?, o.precedence < op.precedence) :
    step ⟨left, ps ++ waiting, outer⟩ (.operator op)
      = .ok ⟨release ps left, op :: waiting, outer⟩ := by
  have hps' : ∀ o ∈ ps, leavesBefore op o = true := fun o ho => decide_eq_true (hps o ho)
  have hstop : waiting.takeWhile (leavesBefore op) = [] ∧
      waiting.dropWhile (leavesBefore op) = waiting := by
    cases waiting with
    | nil => exact ⟨rfl, rfl⟩
    | cons o os =>
      have ho : ¬ leavesBefore op o = true := by
        simpa [leavesBefore] using hw o rfl
      exact ⟨List.takeWhile_cons_of_neg ho, List.dropWhile_cons_of_neg ho⟩
  simp only [step, List.takeWhile_append_of_pos hps', List.dropWhile_append_of_pos hps', hstop.1,
    hstop.2, List.append_nil]

/-- No operator binds as tightly as an atom. -/
theorem eq_nil_of_atomLevel_le {ps : List Operator} (h : ∀ o ∈ ps, atomLevel ≤ o.precedence) :
    ps = [] := by
  cases ps with
  | nil => rfl
  | cons o os =>
    have h1 := h o List.mem_cons_self
    have h2 := o.precedence_le_three
    exact absurd h1 (by rw [atomLevel]; omega)

/-- **A loose phrase on the siding**: if what waits last binds less tightly than level `k`, a loose
phrase of level `k` leaves only operators of that level or above on top of it, and once they have
left too, the phrase stands in its order behind what had left before. -/
theorem feed_loosePhrase {k : Nat} {ts p : List Token} (h : LoosePhrase k ts p) (s : Siding)
    (hs : ∀ o ∈ s.waiting.head?, o.precedence < k) :
    ∃ left ps, s.feed ts = .ok ⟨left, ps ++ s.waiting, s.outer⟩ ∧
      (∀ o ∈ ps, k ≤ o.precedence) ∧ release ps left = p.reverse ++ s.left := by
  induction h generalizing s with
  | blank => exact ⟨s.left, [], rfl, fun _ h => absurd h List.not_mem_nil, rfl⟩
  | @operand ts p t ht _ ih =>
    obtain ⟨left, ps, hf, hps, hl⟩ := ih s hs
    obtain rfl := eq_nil_of_atomLevel_le hps
    refine ⟨t :: left, [], ?_, hps, ?_⟩
    · rw [feed_append_of_ok hf, feed_cons, step_operand _ ht]
      rfl
    · rw [List.reverse_append]
      exact congrArg (t :: ·) hl
  | @bracketed ts us p q _ _ ih ihb =>
    obtain ⟨left, ps, hf, hps, hl⟩ := ih s hs
    obtain rfl := eq_nil_of_atomLevel_le hps
    obtain ⟨left', qs, hf', hqs, hl'⟩ :=
      ihb ⟨left, [], s.waiting :: s.outer⟩ (fun _ h => by cases h)
    refine ⟨release qs left', [], ?_, hps, ?_⟩
    · rw [feed_append_of_ok hf]
      show feed ⟨left, [], s.waiting :: s.outer⟩ (us ++ [.closing]) = _
      rw [feed_append_of_ok hf', List.append_nil]
      rfl
    · rw [List.reverse_append, List.append_assoc, ← hl]
      exact hl'
  | tighter _ _ ih =>
    obtain ⟨left, ps, hf, hps, hl⟩ := ih s fun o ho => Nat.lt_succ_of_lt (hs o ho)
    exact ⟨left, ps, hf, fun o ho => Nat.le_of_succ_le (hps o ho), hl⟩
  | @binary ts us p q op _ _ ihl ihr =>
    rw [op.level_eq_precedence] at hs ⊢
    simp only [op.level_eq_precedence] at ihl ihr
    obtain ⟨left, ps, hf, hps, hl⟩ := ihl s hs
    obtain ⟨left', qs, hf', hqs, hl'⟩ :=
      ihr ⟨release ps left, op :: s.waiting, s.outer⟩ fun o ho => by
        cases ho
        exact Nat.lt_succ_self _
    refine ⟨left', qs ++ [op], ?_, ?_, ?_⟩
    · rw [feed_append_of_ok hf, feed_cons, step_operator_append hps hs]
      show feed ⟨release ps left, op :: s.waiting, s.outer⟩ us = _
      rw [hf', List.append_assoc]
      rfl
    · intro o ho
      rcases List.mem_append.1 ho with ho | ho
      · exact Nat.le_of_succ_le (hqs o ho)
      · exact Nat.le_of_eq (congrArg _ (List.mem_singleton.1 ho).symm)
    · rw [release_append, hl', hl]
      simp [release]

end Siding

/-- The siding brings a loose phrase into its order. -/
theorem LoosePhrase.reversePolish {ts p : List Token} (h : LoosePhrase 1 ts p) :
    reversePolish ts = .ok p := by
  obtain ⟨left, ps, hf, -, hl⟩ := Siding.feed_loosePhrase h Siding.start fun _ h => by cases h
  rw [Formulary.reversePolish, hf]
  show Except.ok (Siding.release (ps ++ []) left).reverse = _
  rw [List.append_nil, hl, show Siding.start.left = [] from rfl, List.append_nil,
    List.reverse_reverse]

/-! ### Every row that is taken in is made of loose phrases -/

/-- The tokens are a loose phrase of the first level in some order. -/
def IsLoose (ts : List Token) : Prop := ∃ p, LoosePhrase 1 ts p

namespace LoosePhrase

/-- What can be put at the end of an empty or filled place can be put at the end of any phrase,
because every phrase ends in a place. -/
theorem exists_append {es : List Token}
    (hes : ∀ {ts p}, LoosePhrase atomLevel ts p → ∃ q, LoosePhrase atomLevel (ts ++ es) q)
    {k : Nat} {ts p : List Token} (h : LoosePhrase k ts p) : ∃ q, LoosePhrase k (ts ++ es) q := by
  induction h with
  | blank => exact hes .blank
  | operand ht h _ => exact hes (.operand ht h)
  | bracketed h hb _ _ => exact hes (.bracketed h hb)
  | tighter hk _ ih =>
    obtain ⟨q, hq⟩ := ih
    exact ⟨q, .tighter hk hq⟩
  | binary op hl _ _ ihr =>
    obtain ⟨q, hq⟩ := ihr
    exact ⟨_, by rw [List.append_assoc]; exact .binary op hl hq⟩

/-- A phrase is one of every level below its own. -/
theorem of_le {j k : Nat} {ts p : List Token} (h : LoosePhrase k ts p) (hj : 1 ≤ j)
    (hjk : j ≤ k) : LoosePhrase j ts p := by
  induction hjk using Nat.decreasingInduction with
  | self => exact h
  | of_succ j _ ih => exact .tighter hj (ih (Nat.le_succ_of_le hj))

/-- An operator can be put at the end of a phrase of its level or below: with an empty place behind
it, it joins the rightmost phrase of its own level. -/
theorem exists_append_operator {op : Operator} {k : Nat} {ts p : List Token}
    (h : LoosePhrase k ts p) (hk : k ≤ op.level) :
    ∃ q, LoosePhrase k (ts ++ [.operator op]) q := by
  have hop := op.level_le_three
  have hjoin : ∀ {k ts p}, LoosePhrase k ts p → k = op.level →
      ∃ q, LoosePhrase k (ts ++ [.operator op]) q := by
    rintro k ts p h rfl
    exact ⟨_, .binary op h (blank.of_le (Nat.le_add_left 1 _) (Nat.succ_le_succ hop))⟩
  induction h with
  | blank | operand | bracketed => exact absurd hk (by rw [atomLevel]; omega)
  | @tighter k ts p hk1 h ih =>
    rcases Nat.eq_or_lt_of_le hk with heq | hlt
    · exact hjoin (.tighter hk1 h) heq
    · obtain ⟨q, hq⟩ := ih hlt
      exact ⟨q, .tighter hk1 hq⟩
  | @binary ts us p q op' hl hr _ ihr =>
    rcases Nat.eq_or_lt_of_le hk with heq | hlt
    · exact hjoin (.binary op' hl hr) heq
    · obtain ⟨q', hq⟩ := ihr hlt
      exact ⟨_, by rw [List.append_assoc]; exact .binary op' hl hq⟩

/-- Nothing of a phrase is lost, and nothing but its brackets left out. -/
theorem perm {k : Nat} {ts p : List Token} (h : LoosePhrase k ts p) :
    p.Perm (ts.filter fun t => !t.isBracket) := by
  induction h with
  | blank => exact .nil
  | @operand ts p t ht _ ih =>
    have hb : [t].filter (fun t => !t.isBracket) = [t] := by
      cases t with
      | number | name | unreadable => rfl
      | operator | opening | closing => cases ht
    rw [List.filter_append, hb]
    exact ih.append_right [t]
  | bracketed _ _ ih ihb =>
    rw [List.filter_append, List.cons_append, List.filter_cons_of_neg Bool.noConfusion,
      List.filter_append, List.filter_cons_of_neg Bool.noConfusion, List.filter_nil,
      List.append_nil]
    exact ih.append ihb
  | tighter _ _ ih => exact ih
  | @binary ts us p q op _ _ ihl ihr =>
    rw [List.filter_append, List.filter_cons_of_pos rfl, List.append_assoc]
    exact ihl.append ((List.perm_append_singleton _ q).trans (ihr.cons _))

/-- Operands keep their places among each other. -/
theorem filter_isOperand {k : Nat} {ts p : List Token} (h : LoosePhrase k ts p) :
    p.filter Token.isOperand = ts.filter Token.isOperand := by
  induction h with
  | blank => rfl
  | operand _ _ ih => rw [List.filter_append, List.filter_append, ih]
  | bracketed _ _ ih ihb =>
    rw [List.filter_append, List.filter_append, List.cons_append,
      List.filter_cons_of_neg Bool.noConfusion, List.filter_append,
      List.filter_cons_of_neg Bool.noConfusion, List.filter_nil, List.append_nil, ih, ihb]
  | tighter _ _ ih => exact ih
  | binary op _ _ ihl ihr =>
    rw [List.filter_append, List.filter_append, List.filter_append,
      List.filter_cons_of_neg Bool.noConfusion, List.filter_cons_of_neg Bool.noConfusion,
      List.filter_nil, List.append_nil, ihl, ihr]

end LoosePhrase

namespace IsLoose

theorem nil : IsLoose [] := ⟨[], LoosePhrase.blank.of_le (Nat.le_refl 1) (by decide)⟩

theorem append_operand {ts : List Token} (h : IsLoose ts) {t : Token} (ht : t.isOperand = true) :
    IsLoose (ts ++ [t]) := by
  obtain ⟨p, hp⟩ := h
  exact LoosePhrase.exists_append (fun hp => ⟨_, .operand ht hp⟩) hp

theorem append_bracketed {ts us : List Token} (h : IsLoose ts) (hu : IsLoose us) :
    IsLoose (ts ++ (.opening :: us ++ [.closing])) := by
  obtain ⟨p, hp⟩ := h
  obtain ⟨q, hq⟩ := hu
  exact LoosePhrase.exists_append (fun hp => ⟨_, .bracketed hp hq⟩) hp

theorem append_operator {ts : List Token} (h : IsLoose ts) (op : Operator) :
    IsLoose (ts ++ [.operator op]) := by
  obtain ⟨p, hp⟩ := h
  exact hp.exists_append_operator op.level_pos

end IsLoose

/-- The piece `ts` behind the pieces in front of it, the nearest first, with an opening bracket
after each of those. -/
def unclosed (ts : List Token) : List (List Token) → List Token
  | [] => ts
  | us :: pieces => unclosed (us ++ .opening :: ts) pieces

theorem unclosed_append (ts us : List Token) (pieces : List (List Token)) :
    unclosed ts pieces ++ us = unclosed (ts ++ us) pieces := by
  induction pieces generalizing ts with
  | nil => rfl
  | cons vs pieces ih => rw [unclosed, unclosed, ih, List.append_assoc, List.cons_append]

/-- **A row that is taken in falls into loose phrases** at the brackets that are still open, one
for each level of the siding. -/
theorem pieces_of_feed {ts : List Token} {s : Siding} (h : Siding.start.feed ts = .ok s) :
    ∃ us pieces, ts = unclosed us pieces ∧ pieces.length = s.outer.length ∧
      IsLoose us ∧ ∀ vs ∈ pieces, IsLoose vs := by
  induction ts using List.reverseRecOn generalizing s with
  | nil =>
    cases h
    exact ⟨[], [], rfl, rfl, .nil, fun _ h => absurd h List.not_mem_nil⟩
  | append_singleton ts t ih =>
    rw [Siding.feed_append, bind_eq_ok_iff] at h
    obtain ⟨s', hf, h⟩ := h
    rw [Siding.feed_cons, bind_eq_ok_iff] at h
    obtain ⟨s'', h, hs⟩ := h
    obtain rfl : s'' = s := Except.ok.inj hs
    obtain ⟨us, pieces, rfl, hlen, hus, hps⟩ := ih hf
    have stay : ∀ {es : List Token}, IsLoose (us ++ es) → s''.outer = s'.outer →
        ∃ ws pieces', unclosed us pieces ++ es = unclosed ws pieces' ∧
          pieces'.length = s''.outer.length ∧ IsLoose ws ∧ ∀ vs ∈ pieces', IsLoose vs :=
      fun hw ho => ⟨_, pieces, unclosed_append .., by rw [ho, hlen], hw, hps⟩
    cases t with
    | number | name | unreadable =>
      cases h
      exact stay (hus.append_operand rfl) rfl
    | operator op =>
      cases h
      exact stay (hus.append_operator op) rfl
    | opening =>
      cases h
      refine ⟨[], us :: pieces, unclosed_append .., by simp [hlen], .nil, ?_⟩
      intro vs hvs
      rcases List.mem_cons.1 hvs with rfl | hvs
      · exact hus
      · exact hps vs hvs
    | closing =>
      -- the innermost open bracket is closed, so the last two pieces become one
      simp only [Siding.step] at h
      cases ho : s'.outer with
      | nil => rw [ho] at h; cases h
      | cons qs outer =>
        rw [ho] at h hlen
        cases h
        cases pieces with
        | nil => cases hlen
        | cons ws pieces =>
          refine ⟨_, pieces, ?_, by simpa using hlen,
            (hps ws List.mem_cons_self).append_bracketed hus,
            fun vs hvs => hps vs (List.mem_cons_of_mem _ hvs)⟩
          rw [unclosed, unclosed_append, List.append_assoc]

/-- **The siding reads loose phrases**: a row of tokens is brought into the order `p` exactly if it
is a loose phrase of the first level with that order. -/
theorem reversePolish_eq_ok_iff {ts p : List Token} :
    reversePolish ts = .ok p ↔ LoosePhrase 1 ts p := by
  constructor
  · intro h
    have h' := h
    rw [reversePolish, bind_eq_ok_iff] at h'
    obtain ⟨s, hf, hs⟩ := h'
    obtain ⟨us, pieces, rfl, hlen, ⟨q, hq⟩, -⟩ := pieces_of_feed hf
    cases pieces with
    | nil => rwa [← Except.ok.inj (hq.reversePolish.symm.trans h)]
    | cons vs pieces =>
      cases ho : s.outer with
      | nil => rw [ho] at hlen; cases hlen
      | cons qs outer => rw [Siding.finish, ho] at hs; cases hs
  · exact LoosePhrase.reversePolish

end Formulary
