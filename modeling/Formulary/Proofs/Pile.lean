import Formulary.Proofs.Balance
import Formulary.Token.Pile
import Mathlib.Data.List.TakeWhile

/-!
# What lies on the pile

The pile holds what waits on the siding, with the opening brackets between the levels, and one token
changes both in the same way (`step_pile`). So both bring a row into the same order, or refuse it.

From the top down to an opening bracket each operator on the pile binds more tightly than the next
(`IsLayered`). A token that comes keeps it so: an operator lands on what binds less tightly, and a
closing bracket removes a whole level (`IsLayered.step`). There are three degrees of tightness, so
the open brackets bound the height of the pile (`IsLayered.length_le`), and since nothing but
operators lies above the topmost bracket, nothing else ever leaves (`waiting_layered`).
-/

namespace Formulary

/-! ### One token -/

/-- An opening bracket never leaves the pile along with something else. -/
theorem Token.opens_of_dislodges {t u : Token} (h : t.dislodges u = true) : u.opens = false := by
  cases u with
  | opening => cases t <;> cases h
  | number | name | operator | closing | unreadable => rfl

theorem Token.eq_opening_of_dislodges {u : Token} (h : closing.dislodges u = false) :
    u = opening := by
  cases u with
  | opening => rfl
  | number | name | operator | closing | unreadable => cases h

namespace Pile

/-- What one token does to the pile, and when it is refused. -/
theorem step_cases (s : Pile) (t : Token) :
    (t.isOperand = true ∧ s.step t = .ok ⟨t :: s.left, s.waiting⟩) ∨
    (∃ op, t = .operator op ∧
      s.step t = .ok ⟨(s.leaving t).reverse ++ s.left, t :: s.staying t⟩) ∨
    (t = .opening ∧ s.step t = .ok ⟨s.left, t :: s.waiting⟩) ∨
    (∃ rest, t = .closing ∧ s.staying t = .opening :: rest ∧
      s.step t = .ok ⟨(s.leaving t).reverse ++ s.left, rest⟩) ∨
    (t = .closing ∧ s.staying t = [] ∧ s.step t = .error .mismatchedBrackets) := by
  cases t with
  | number | name | unreadable => exact .inl ⟨rfl, s.step_operand rfl⟩
  | operator op => exact .inr (.inl ⟨op, rfl, rfl⟩)
  | opening => exact .inr (.inr (.inl ⟨rfl, s.step_opening⟩))
  | closing =>
    rw [step]
    have hhead := s.waiting.head?_dropWhile_not Token.closing.dislodges
    rw [← staying] at hhead
    cases hs : s.staying .closing with
    | nil => exact .inr (.inr (.inr (.inr ⟨rfl, rfl, rfl⟩)))
    | cons u rest =>
      rw [hs] at hhead
      rw [Token.eq_opening_of_dislodges hhead]
      exact .inr (.inr (.inr (.inl ⟨rest, rfl, rfl, rfl⟩)))

/-- One token adds to what has left itself, if it is an operand, and what leaves the pile. -/
theorem left_of_step {s s' : Pile} {t : Token} (h : s.step t = .ok s') :
    s'.left = (if t.isOperand then [t] else []) ++ (s.leaving t).reverse ++ s.left := by
  obtain ⟨ht, hs⟩ | ⟨op, rfl, hs⟩ | ⟨rfl, hs⟩ | ⟨rest, rfl, -, hs⟩ | ⟨-, -, hs⟩ := s.step_cases t
  all_goals cases hs.symm.trans h
  · rw [leaving_eq_nil (.inl ht), if_pos ht]
    rfl
  · rfl
  · rw [leaving_eq_nil (.inr rfl)]
    rfl
  · rfl

/-- No opening bracket leaves, so all of them stay. -/
theorem countP_staying (s : Pile) (t : Token) :
    (s.staying t).countP Token.opens = s.waiting.countP Token.opens := by
  have hleaving : (s.leaving t).countP Token.opens = 0 := by
    refine List.countP_eq_zero.2 fun u hu => ?_
    rw [Token.opens_of_dislodges (List.mem_takeWhile_imp hu)]
    exact Bool.false_ne_true
  rw [← s.leaving_append_staying t, List.countP_append, hleaving, Nat.zero_add]

/-! ### The brackets on the pile -/

/-- One token changes the number of brackets on the pile as it changes the number of open ones. It
is refused if there would be fewer than none. -/
theorem step_countP (s : Pile) (t : Token) :
    (∃ s', s.step t = .ok s' ∧
      (s'.waiting.countP Token.opens : Int) = s.waiting.countP Token.opens + openBrackets [t]) ∨
    s.step t = .error .mismatchedBrackets ∧
      (s.waiting.countP Token.opens : Int) + openBrackets [t] < 0 := by
  have hcount := s.countP_staying t
  obtain ⟨ht, hs⟩ | ⟨op, rfl, hs⟩ | ⟨rfl, hs⟩ | ⟨rest, rfl, hrest, hs⟩ | ⟨rfl, hrest, hs⟩ :=
    s.step_cases t
  · exact .inl ⟨_, hs, by rw [openBrackets_operand ht, Int.add_zero]⟩
  · refine .inl ⟨_, hs, ?_⟩
    show ((Token.operator op :: s.staying _).countP Token.opens : Int) = _ + 0
    rw [List.countP_cons_of_neg Bool.false_ne_true, hcount, Int.add_zero]
  · refine .inl ⟨_, hs, ?_⟩
    show ((Token.opening :: s.waiting).countP Token.opens : Int) = _ + 1
    rw [List.countP_cons_of_pos rfl]
    rfl
  · refine .inl ⟨_, hs, ?_⟩
    rw [hrest, List.countP_cons_of_pos rfl] at hcount
    show (rest.countP Token.opens : Int) = _ + -1
    omega
  · refine .inr ⟨hs, ?_⟩
    rw [hrest, List.countP_nil] at hcount
    rw [← hcount]
    decide

/-- After a row, as many brackets lie on the pile as are open, and the row is refused exactly if at
some place fewer than none would be open. -/
theorem feed_countP (s : Pile) (ts : List Token) :
    ((∃ s', s.feed ts = .ok s') ↔
      ∀ us, us <+: ts → 0 ≤ (s.waiting.countP Token.opens : Int) + openBrackets us) ∧
    ∀ s', s.feed ts = .ok s' →
      (s'.waiting.countP Token.opens : Int) = s.waiting.countP Token.opens + openBrackets ts := by
  induction ts generalizing s with
  | nil =>
    refine ⟨iff_of_true ⟨s, rfl⟩ fun us hus => ?_, fun s' hs' => ?_⟩
    · rw [List.prefix_nil.1 hus]
      exact Int.natCast_nonneg _
    · cases hs'
      exact (Int.add_zero _).symm
  | cons t ts ih =>
    rw [feed_cons, forall_prefix_cons
      (P := fun us => 0 ≤ (s.waiting.countP Token.opens : Int) + openBrackets us)
      (Int.natCast_nonneg _)]
    obtain ⟨s', hs, hcount⟩ | ⟨hs, hneg⟩ := s.step_countP t
    · have hopen (us : List Token) : (s.waiting.countP Token.opens : Int) + openBrackets (t :: us)
          = s'.waiting.countP Token.opens + openBrackets us := by
        rw [hcount, openBrackets_cons, Int.add_assoc]
      simp only [hs, hopen]
      exact ih s'
    · rw [hs]
      refine ⟨iff_of_false ?_ fun h => absurd (h [] List.nil_prefix) (Int.not_le.2 hneg), ?_⟩
      · rintro ⟨s', hs'⟩
        cases hs'
      · intro s' hs'
        cases hs'

/-! ### The levels of the pile -/

/-- How tightly the operator on top of a pile binds; zero if there is none. -/
def topPrecedence : List Token → Nat
  | .operator op :: _ => op.precedence
  | _ => 0

/-- A pile, from the top on, on which each operator binds more tightly than what it lies on, unless
that is an opening bracket. -/
inductive IsLayered : List Token → Prop where
  /-- Nothing waits. -/
  | nil : IsLayered []
  /-- An opening bracket may lie on anything. -/
  | opening {ts : List Token} : IsLayered ts → IsLayered (.opening :: ts)
  /-- An operator lies on something that binds less tightly. -/
  | operator {op : Operator} {ts : List Token} :
    topPrecedence ts < op.precedence → IsLayered ts → IsLayered (.operator op :: ts)

theorem topPrecedence_le_three (ts : List Token) : topPrecedence ts ≤ 3 := by
  unfold topPrecedence
  split
  · exact Operator.precedence_le_three _
  · exact Nat.zero_le 3

/-- An operator lands on something that binds less tightly. -/
theorem topPrecedence_staying_lt (s : Pile) (op : Operator) :
    topPrecedence (s.staying (.operator op)) < op.precedence := by
  obtain ⟨left, waiting⟩ := s
  show topPrecedence (waiting.dropWhile _) < _
  induction waiting with
  | nil => exact op.precedence_pos
  | cons u us ih =>
    rw [List.dropWhile_cons]
    split
    · exact ih
    · rename_i hu
      cases u with
      | operator p => exact Nat.lt_of_not_le (mt decide_eq_true hu)
      | number | name | opening | closing | unreadable => exact op.precedence_pos

namespace IsLayered

variable {ts us : List Token}

theorem tail {t : Token} (h : IsLayered (t :: ts)) : IsLayered ts := by
  cases h with
  | opening h => exact h
  | operator _ h => exact h

/-- What lies under a part of the pile is layered as well. -/
theorem of_append (h : IsLayered (us ++ ts)) : IsLayered ts := by
  induction us with
  | nil => exact h
  | cons u us ih => exact ih h.tail

theorem eq_opening_or_operator (h : IsLayered ts) :
    ∀ t ∈ ts, t = .opening ∨ ∃ op, t = .operator op := by
  induction h with
  | nil => exact List.forall_mem_nil _
  | opening _ ih => exact List.forall_mem_cons.2 ⟨.inl rfl, ih⟩
  | operator _ _ ih => exact List.forall_mem_cons.2 ⟨.inr ⟨_, rfl⟩, ih⟩

/-- **The open brackets bound the height of the pile.** There are at most three operators on each
level, and fewer below one that binds less tightly. -/
theorem length_le (h : IsLayered ts) :
    ts.length ≤ 4 * ts.countP Token.opens + topPrecedence ts := by
  induction h with
  | nil => exact Nat.le_refl 0
  | @opening ts _ ih =>
    have htop := topPrecedence_le_three ts
    rw [List.length_cons, List.countP_cons_of_pos rfl]
    omega
  | @operator op ts htop _ ih =>
    rw [List.length_cons, List.countP_cons_of_neg Bool.false_ne_true]
    show _ ≤ _ + op.precedence
    omega

/-- A part of the pile without a bracket is a row of operators that bind more and more tightly from
bottom to top. -/
theorem exists_operators {level : List Token} (h : IsLayered (level ++ ts))
    (hlevel : .opening ∉ level) :
    ∃ ps : List Operator, level = ps.map .operator ∧
      ps.Pairwise fun p q => q.precedence < p.precedence := by
  induction level with
  | nil => exact ⟨[], rfl, .nil⟩
  | cons t level ih =>
    rw [List.mem_cons, not_or] at hlevel
    rw [List.cons_append] at h
    cases h with
    | opening => exact absurd rfl hlevel.1
    | @operator op _ htop h =>
      obtain ⟨ps, rfl, hps⟩ := ih h hlevel.2
      refine ⟨op :: ps, rfl, List.pairwise_cons.2 ⟨fun q hq => ?_, hps⟩⟩
      cases ps with
      | nil => cases hq
      | cons p ps =>
        have hp : p.precedence < op.precedence := htop
        rcases List.mem_cons.1 hq with rfl | hq
        · exact hp
        · exact Nat.lt_trans (List.rel_of_pairwise_cons hps hq) hp

/-- What one token leaves on the pile is layered again. -/
theorem step {s s' : Pile} {t : Token} (h : IsLayered s.waiting) (hs : s.step t = .ok s') :
    IsLayered s'.waiting := by
  have hstaying : IsLayered (s.staying t) := by
    rw [← s.leaving_append_staying t] at h
    exact h.of_append
  obtain ⟨-, heq⟩ | ⟨op, rfl, heq⟩ | ⟨rfl, heq⟩ | ⟨rest, -, hrest, heq⟩ | ⟨-, -, heq⟩ :=
    s.step_cases t
  all_goals cases heq.symm.trans hs
  · exact h
  · exact .operator (s.topPrecedence_staying_lt op) hstaying
  · exact .opening h
  · rw [hrest] at hstaying
    exact hstaying.tail

/-- So is what a row of tokens leaves. -/
theorem feed {s s' : Pile} {ts : List Token} (h : IsLayered s.waiting) (hs : s.feed ts = .ok s') :
    IsLayered s'.waiting :=
  foldlM_keeps (P := fun s => IsLayered s.waiting) step h hs

/-- Whatever leaves a layered pile is an operator. -/
theorem exists_of_mem_leaving {s : Pile} (h : IsLayered s.waiting) {t u : Token}
    (hu : u ∈ s.leaving t) : ∃ op, u = .operator op := by
  rcases h.eq_opening_or_operator u ((List.takeWhile_prefix _).subset hu) with rfl | hop
  · cases Token.opens_of_dislodges (List.mem_takeWhile_imp hu)
  · exact hop

end IsLayered

end Pile

/-! ### The pile and the siding -/

namespace Siding

/-- The state of the siding with all that waits on one pile. -/
def pile (s : Siding) : Pile := ⟨s.left, s.stack⟩

/-- What waits outside the innermost open bracket does not leave: that bracket lies on it. -/
theorem takeWhile_outer (t : Token) (outer : List (List Operator)) :
    (outer.flatMap fun ps => Token.opening :: ps.map .operator).takeWhile t.dislodges = [] := by
  cases outer with
  | nil => rfl
  | cons ps outer => cases t <;> rfl

theorem leaving_pile (s : Siding) (t : Token) :
    s.pile.leaving t
      = (s.waiting.takeWhile fun p => t.dislodges (.operator p)).map .operator := by
  obtain ⟨left, waiting, outer⟩ := s
  show (waiting.map _ ++ _).takeWhile _ = _
  induction waiting with
  | nil => exact takeWhile_outer t outer
  | cons p ps ih =>
    rw [List.map_cons, List.cons_append, List.takeWhile_cons, ih, List.takeWhile_cons]
    split <;> rfl

theorem staying_pile (s : Siding) (t : Token) :
    s.pile.staying t
      = (s.waiting.dropWhile fun p => t.dislodges (.operator p)).map .operator
        ++ s.outer.flatMap fun ps => .opening :: ps.map .operator := by
  have hparts := s.pile.leaving_append_staying t
  have hwaiting : s.pile.waiting
      = (s.waiting.takeWhile fun p => t.dislodges (.operator p)).map .operator
        ++ ((s.waiting.dropWhile fun p => t.dislodges (.operator p)).map .operator
          ++ s.outer.flatMap fun ps => .opening :: ps.map .operator) := by
    rw [← List.append_assoc, ← List.map_append, List.takeWhile_append_dropWhile]
    rfl
  rw [hwaiting, leaving_pile] at hparts
  exact List.append_cancel_left hparts

/-- **One token changes the pile as it changes the siding.** -/
theorem step_pile (s : Siding) (t : Token) : s.pile.step t = (s.step t).map pile := by
  cases t with
  | number | name | unreadable => exact s.pile.step_operand rfl
  | opening => exact s.pile.step_opening
  | operator op =>
    show Except.ok (Pile.mk _ _) = _
    rw [leaving_pile, staying_pile]
    rfl
  | closing =>
    -- the whole level leaves, down to its bracket
    have hleaving : (s.waiting.takeWhile fun p => Token.closing.dislodges (.operator p))
        = s.waiting := List.takeWhile_eq_self_iff.2 fun _ _ => rfl
    have hstaying : (s.waiting.dropWhile fun p => Token.closing.dislodges (.operator p)) = [] :=
      List.dropWhile_eq_nil_iff.2 fun _ _ => rfl
    rw [Pile.step, leaving_pile, staying_pile, hleaving, hstaying]
    obtain ⟨left, waiting, outer⟩ := s
    cases outer <;> rfl

theorem feed_pile (s : Siding) (ts : List Token) : s.pile.feed ts = (s.feed ts).map pile := by
  induction ts generalizing s with
  | nil => rfl
  | cons t ts ih =>
    rw [Pile.feed_cons, feed_cons, step_pile]
    cases s.step t with
    | error e => rfl
    | ok s' => exact ih s'

theorem finish_pile (s : Siding) : s.pile.finish = s.finish := by
  obtain ⟨left, waiting, outer⟩ := s
  have hops : (waiting.map Token.operator).any Token.opens = false := by
    simp [Token.opens]
  cases outer with
  | nil =>
    have hwaiting : (pile ⟨left, waiting, []⟩).waiting = waiting.map .operator :=
      List.append_nil _
    rw [Pile.finish, hwaiting, hops]
    rfl
  | cons ps outer =>
    have hany : (pile ⟨left, waiting, ps :: outer⟩).waiting.any Token.opens = true := by
      show List.any (_ ++ _) _ = true
      rw [List.any_append, hops]
      rfl
    rw [Pile.finish, hany]
    rfl

end Siding

/-- The pile brings a row into the same order as the siding, or refuses it as well. -/
theorem Pile.finish_feed (ts : List Token) : start.feed ts >>= finish = reversePolish ts := by
  have hfeed : start.feed ts = (Siding.start.feed ts).map Siding.pile := Siding.start.feed_pile ts
  rw [reversePolish, hfeed]
  cases Siding.start.feed ts with
  | error e => rfl
  | ok s => exact s.finish_pile

/-- **What lies on the pile**, whatever the row is. After each part of the row that is taken in, and
that is each one in front of the first bracket that closes none, the pile is what waits on the
siding. There are only operators and opening brackets on it, as many brackets as are open, and in
between operators that bind more and more tightly from bottom to top. So with `d` brackets open
there are at most `3 * (d + 1) + d` tokens on it. Whichever token comes next, only operators leave
the pile, also when a closing bracket is refused. -/
theorem Pile.waiting_layered (ts : List Token) :
    start.feed ts >>= finish = reversePolish ts ∧
    ∀ us, us <+: ts →
      ((∃ s, start.feed us = .ok s) ↔ ∀ vs, vs <+: us → 0 ≤ openBrackets vs) ∧
      ∀ s, start.feed us = .ok s →
        (∃ r, Siding.start.feed us = .ok r ∧ s.left = r.left ∧ s.waiting = r.stack) ∧
        (∀ t ∈ s.waiting, t = .opening ∨ ∃ op, t = .operator op) ∧
        (∀ level, level <:+: s.waiting → .opening ∉ level →
          ∃ ps : List Operator, level = ps.map .operator ∧
            ps.Pairwise fun p q => q.precedence < p.precedence) ∧
        (s.waiting.countP Token.opens : Int) = openBrackets us ∧
        (∀ d : Nat, openBrackets us = d → s.waiting.length ≤ 3 * (d + 1) + d) ∧
        ∀ t, (∀ u ∈ s.leaving t, ∃ op, u = .operator op) ∧
          ∀ s', s.step t = .ok s' →
            s'.left = (if t.isOperand then [t] else []) ++ (s.leaving t).reverse ++ s.left := by
  refine ⟨finish_feed ts, fun us _ => ?_⟩
  obtain ⟨hfeed, hcount⟩ := start.feed_countP us
  have hzero (n : Int) : (start.waiting.countP Token.opens : Int) + n = n := Int.zero_add n
  simp only [hzero] at hfeed hcount
  refine ⟨hfeed, fun s hs => ?_⟩
  have hlayered : IsLayered s.waiting := IsLayered.nil.feed (s := start) hs
  have hbrackets := hcount s hs
  have hheight : ∀ d : Nat, openBrackets us = d → s.waiting.length ≤ 3 * (d + 1) + d := by
    intro d hd
    have hle := hlayered.length_le
    have htop := topPrecedence_le_three s.waiting
    omega
  refine ⟨?_, hlayered.eq_opening_or_operator, ?_, hbrackets, hheight, fun t =>
    ⟨fun u hu => hlayered.exists_of_mem_leaving hu, fun s' hs' => left_of_step hs'⟩⟩
  · have hsiding : (Siding.start.feed us).map Siding.pile = .ok s :=
      (Siding.start.feed_pile us).symm.trans hs
    obtain ⟨r, hr, rfl⟩ := map_eq_ok_iff.1 hsiding
    exact ⟨r, hr, rfl, rfl⟩
  · rintro level ⟨above, below, heq⟩ hlevel
    rw [← heq, List.append_assoc] at hlayered
    exact hlayered.of_append.exists_operators hlevel

/-- A pile of full height: three operators on each of two levels, and none has an operand. -/
theorem Pile.waiting_layered_full :
    start.feed [.operator .add, .operator .multiply, .operator .power, .opening,
        .operator .subtract, .operator .divide, .operator .power]
      = .ok ⟨[], [.operator .power, .operator .divide, .operator .subtract, .opening,
          .operator .power, .operator .multiply, .operator .add]⟩ ∧
    openBrackets [.operator .add, .operator .multiply, .operator .power, .opening,
      .operator .subtract, .operator .divide, .operator .power] = 1 ∧
    [Token.operator .power, .operator .divide, .operator .subtract, .opening, .operator .power,
      .operator .multiply, .operator .add].length = 3 * (1 + 1) + 1 := by
  have hs : start.feed [.operator .add, .operator .multiply, .operator .power, .opening,
        .operator .subtract, .operator .divide, .operator .power]
      = .ok ⟨[], [.operator .power, .operator .divide, .operator .subtract, .opening,
          .operator .power, .operator .multiply, .operator .add]⟩ := by
    rfl
  obtain ⟨-, hparts⟩ := waiting_layered [.operator .add, .operator .multiply, .operator .power,
    .opening, .operator .subtract, .operator .divide, .operator .power]
  obtain ⟨-, -, -, hbrackets, hheight, -⟩ := (hparts _ (List.prefix_refl _)).2 _ hs
  exact ⟨hs, hbrackets.symm, Nat.le_antisymm (hheight 1 hbrackets.symm) (Nat.le_refl 7)⟩

end Formulary
