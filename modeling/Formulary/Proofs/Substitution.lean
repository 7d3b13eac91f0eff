import Formulary.Formula.Substitution
import Formulary.Proofs.Grammar.Reading

/-!
# Formulas in the place of variables

A row of tokens that stands for a formula can be put in brackets in the place of a variable,
anywhere and any number of times, and what comes of the whole is the same with the formula in the
variable's place (`ofTokens_substAll`). This is so in every context: where the whole stands for no
formula, it has the same fault before and after.

The siding puts aside what waits when the bracket opens, and by the time it closes all that has come
in between has left in its order, so the siding goes on as if a single operand had passed
(`feed_bracketed`). Assembly likewise goes on as if a single leaf had been put on the stack.
-/

namespace Formulary

namespace Token

/-- The tokens with `p` in place of the variable `c`, without brackets. -/
def replaceAll (c : Char) (p ts : List Token) : List Token :=
  ts.flatMap fun t => if t = .name c then p else [t]

/-- What stands behind the others comes first when the tokens are reversed. -/
theorem reverse_replaceAll (c : Char) (p ts : List Token) :
    (replaceAll c p ts).reverse = replaceAll c p.reverse ts.reverse := by
  rw [replaceAll, List.reverse_flatMap, replaceAll]
  refine congrArg (fun f => List.flatMap f ts.reverse) (funext fun t => ?_)
  show (if t = .name c then p else [t]).reverse = _
  split <;> rfl

theorem replaceAll_cons_of_ne {c : Char} {p : List Token} {t : Token} (h : t ≠ .name c)
    (ts : List Token) : replaceAll c p (t :: ts) = t :: replaceAll c p ts := by
  rw [replaceAll, List.flatMap_cons, if_neg h]
  rfl

theorem replaceAll_cons_self (c : Char) (p ts : List Token) :
    replaceAll c p (.name c :: ts) = p ++ replaceAll c p ts := by
  rw [replaceAll, List.flatMap_cons, if_pos rfl]
  rfl

/-- Operators are no variables. -/
theorem replaceAll_release (c : Char) (p : List Token) (ops : List Operator) (ts : List Token) :
    replaceAll c p (Siding.release ops ts) = Siding.release ops (replaceAll c p ts) := by
  induction ops generalizing ts with
  | nil => rfl
  | cons op ops ih =>
    rw [show op :: ops = [op] ++ ops from rfl, Siding.release_append, Siding.release_append, ih]
    refine congrArg _ (replaceAll_cons_of_ne Token.noConfusion ts)

end Token

/-! ### The siding -/

namespace Siding

/-- **A row in brackets passes like an operand**: all of it leaves, in its order, and what waited
goes on waiting. -/
theorem feed_bracketed (s : Siding) {ts p : List Token} (h : reversePolish ts = .ok p) :
    s.feed (.opening :: ts ++ [.closing]) = .ok { s with left := p.reverse ++ s.left } := by
  have hloose := LoosePhrase.bracketed .blank (reversePolish_eq_ok_iff.1 h)
  obtain ⟨left, ps, hf, hps, hl⟩ := feed_loosePhrase hloose s fun o _ =>
    Nat.lt_succ_of_le o.precedence_le_three
  obtain rfl := eq_nil_of_atomLevel_le hps
  obtain rfl : left = p.reverse ++ s.left := hl
  exact hf

/-- The state with `p` in place of the variable `c` among the tokens that have left. -/
def subst (s : Siding) (c : Char) (p : List Token) : Siding :=
  { s with left := Token.replaceAll c p.reverse s.left }

/-- A token other than the variable passes in the same way. -/
theorem step_subst (s : Siding) {c : Char} (p : List Token) {t : Token} (ht : t ≠ .name c) :
    (s.subst c p).step t = (s.step t).map fun s' => s'.subst c p := by
  have hoperand : t.isOperand = true →
      (s.subst c p).step t = (s.step t).map fun s' => s'.subst c p := by
    intro h
    rw [step_operand _ h, step_operand _ h]
    simp [Except.map, subst, Token.replaceAll_cons_of_ne ht]
  cases t with
  | number | name | unreadable => exact hoperand rfl
  | opening => rfl
  | operator op => simp [step, Except.map, subst, Token.replaceAll_release]
  | closing =>
    obtain ⟨left, waiting, outer⟩ := s
    cases outer with
    | nil => rfl
    | cons ps outer => simp [step, Except.map, subst, Token.replaceAll_release]

/-- What is put in brackets in the place of a variable stands in its place when it has left. -/
theorem feed_substAll (s : Siding) (c : Char) {row p : List Token}
    (hrow : reversePolish row = .ok p) (ts : List Token) :
    (s.subst c p).feed (Token.substAll c row ts) = (s.feed ts).map fun s' => s'.subst c p := by
  induction ts generalizing s with
  | nil => rfl
  | cons t ts ih =>
    rw [Token.substAll, List.flatMap_cons, feed_cons]
    by_cases ht : t = .name c
    · subst ht
      have hname : subst { s with left := .name c :: s.left } c p
          = { s.subst c p with left := p.reverse ++ (s.subst c p).left } := by
        rw [subst, Token.replaceAll_cons_self]
        rfl
      rw [if_pos rfl, feed_append_of_ok (feed_bracketed _ hrow), step_operand s rfl, ← hname]
      exact ih _
    · rw [if_neg ht, List.singleton_append, feed_cons, step_subst s p ht]
      cases s.step t with
      | error e => rfl
      | ok s' => exact ih s'

theorem finish_subst (s : Siding) (c : Char) (p : List Token) :
    (s.subst c p).finish = s.finish.map (Token.replaceAll c p) := by
  obtain ⟨left, waiting, outer⟩ := s
  cases outer with
  | cons ps outer => rfl
  | nil =>
    refine congrArg Except.ok ?_
    show (release waiting (Token.replaceAll c p.reverse left)).reverse = _
    rw [← Token.replaceAll_release, Token.reverse_replaceAll, List.reverse_reverse]

end Siding

/-- The order of a row in which another row is put in brackets in the place of a variable is that of
the first row, with the order of the other in the variable's place. -/
theorem reversePolish_substAll (c : Char) {row p : List Token} (hrow : reversePolish row = .ok p)
    (ts : List Token) :
    reversePolish (Token.substAll c row ts) = (reversePolish ts).map (Token.replaceAll c p) := by
  rw [reversePolish, reversePolish]
  have h := Siding.start.feed_substAll c hrow ts
  rw [show Siding.start.subst c p = Siding.start from rfl] at h
  rw [h]
  cases Siding.start.feed ts with
  | error e => rfl
  | ok s => exact s.finish_subst c p

namespace Formula

/-! ### Assembly -/

/-- Any token but the variable is used in the same way where formulas stand in the variable's
place. -/
theorem assembleStep_subst (stack : List Formula) (c : Char) (S : Formula) {t : Token}
    (ht : t ≠ .name c) :
    assembleStep (stack.map fun f => f.subst c S) t
      = (assembleStep stack t).map (List.map fun f => f.subst c S) := by
  cases t with
  | number | opening | closing | unreadable => rfl
  | name d =>
    have hd : d ≠ c := fun h => ht (congrArg Token.name h)
    show Except.ok (var d :: _) = Except.ok (subst (var d) c S :: _)
    rw [subst, if_neg hd]
  | operator op => rcases stack with - | ⟨r, - | ⟨l, rest⟩⟩ <;> rfl

/-- Assembly of a row with a formula in the place of a variable gives what assembly of the row
gives, with the formula in the variable's place. -/
theorem assemble_replaceAll (stack : List Formula) (c : Char) (S : Formula) (ts : List Token) :
    assemble (stack.map fun f => f.subst c S) (Token.replaceAll c S.toReversePolish ts)
      = (assemble stack ts).map (List.map fun f => f.subst c S) := by
  induction ts generalizing stack with
  | nil => rfl
  | cons t ts ih =>
    rw [assemble_cons]
    by_cases ht : t = .name c
    · subst ht
      have hself : subst (var c) c S = S := if_pos rfl
      rw [Token.replaceAll_cons_self, assemble_append, assemble_toReversePolish]
      have := ih (var c :: stack)
      rw [List.map_cons, hself] at this
      exact this
    · rw [Token.replaceAll_cons_of_ne ht, assemble_cons, assembleStep_subst stack c S ht]
      cases assembleStep stack t with
      | error e => rfl
      | ok stack' => exact ih stack'

theorem only_map (g : Formula → Formula) (stack : List Formula) :
    only (stack.map g) = (only stack).map g := by
  rcases stack with - | ⟨f, - | ⟨f', rest⟩⟩ <;> rfl

theorem ofReversePolish_replaceAll (c : Char) (S : Formula) (ts : List Token) :
    ofReversePolish (Token.replaceAll c S.toReversePolish ts)
      = (ofReversePolish ts).map fun f => f.subst c S := by
  have h := assemble_replaceAll [] c S ts
  rw [ofReversePolish, ofReversePolish]
  rw [List.map_nil] at h
  rw [h]
  cases assemble [] ts with
  | error e => rfl
  | ok stack => exact only_map _ stack

/-! ### Rows of tokens -/

theorem reversePolish_of_ofTokens {ts : List Token} {f : Formula} (h : ofTokens ts = .ok f) :
    reversePolish ts = .ok f.toReversePolish :=
  reversePolish_eq_ok_iff.2 (ofTokens_eq_ok_iff.1 h)

theorem ofTokens_substAll_eq_map {row : List Token} {S : Formula} (hrow : ofTokens row = .ok S)
    (c : Char) (ts : List Token) :
    ofTokens (Token.substAll c row ts) = (ofTokens ts).map fun f => f.subst c S := by
  rw [ofTokens, reversePolish_substAll c (reversePolish_of_ofTokens hrow), ofTokens]
  cases reversePolish ts with
  | error e => rfl
  | ok p => exact ofReversePolish_replaceAll c S p

/-- Between brackets a row stands for what it stands for by itself. -/
theorem ofTokens_bracketed {ts : List Token} {f : Formula} (h : ofTokens ts = .ok f) :
    ofTokens (.opening :: ts ++ [.closing]) = .ok f := by
  have hone := ofTokens_substAll_eq_map h 'x' [.name 'x']
  rw [Token.substAll, List.flatMap_singleton, if_pos rfl] at hone
  exact hone

/-- Two rows in brackets are the operands of the operator between them. -/
theorem ofTokens_bracketed_operator {ts us : List Token} {f g : Formula} (hf : ofTokens ts = .ok f)
    (op : Operator) (hg : ofTokens us = .ok g) :
    ofTokens (.opening :: ts ++ [.closing] ++ .operator op :: (.opening :: us ++ [.closing]))
      = .ok (binary f op g) := by
  have hop := op.level_le_three
  have hleft := LoosePhrase.bracketed .blank (ofTokens_eq_ok_iff.1 hf)
  have hright := LoosePhrase.bracketed .blank (ofTokens_eq_ok_iff.1 hg)
  have hboth := LoosePhrase.binary op (hleft.of_le op.level_pos (Nat.le_succ_of_le hop))
    (hright.of_le (Nat.le_add_left 1 _) (Nat.succ_le_succ hop))
  exact ofTokens_eq_ok_iff.2 (hboth.of_le (Nat.le_refl 1) op.level_pos)

/-- **A formula in the place of a variable**: if a row `s` stands for the formula `S`, it can be put
in brackets in the place of a variable of any other row. Where that row stands for a formula, the
result is the formula with `S` in the variable's place; where it has a fault, of its brackets or of
assembly, the fault stays the same. So brackets around the whole change nothing, and two rows in
brackets are the operands of an operator between them. -/
theorem ofTokens_substAll {s : List Token} {S : Formula} (hs : ofTokens s = .ok S) :
    (∀ c ts, (∀ T, ofTokens ts = .ok T →
        ofTokens (Token.substAll c s ts) = .ok (T.subst c S)) ∧
      (∀ e, ofTokens ts = .error e → ofTokens (Token.substAll c s ts) = .error e) ∧
      ∀ e, reversePolish ts = .error e → reversePolish (Token.substAll c s ts) = .error e) ∧
    ofTokens (.opening :: s ++ [.closing]) = .ok S ∧
    ∀ op us U, ofTokens us = .ok U →
      ofTokens (.opening :: s ++ [.closing] ++ .operator op :: (.opening :: us ++ [.closing]))
        = .ok (binary S op U) := by
  refine ⟨fun c ts => ⟨fun T hT => ?_, fun e he => ?_, fun e he => ?_⟩, ofTokens_bracketed hs,
    fun op us U hU => ofTokens_bracketed_operator hs op hU⟩
  · rw [ofTokens_substAll_eq_map hs, hT]
    rfl
  · rw [ofTokens_substAll_eq_map hs, he]
    rfl
  · rw [reversePolish_substAll c (reversePolish_of_ofTokens hs), he]
    rfl

/-- In `x ^ x`, in `x *` and in `x )` the sum `y + x` takes the place of `x`, though it has an `x`
itself. -/
theorem ofTokens_substAll_sum :
    ofTokens [.name 'y', .operator .add, .name 'x'] = .ok (binary (var 'y') .add (var 'x')) ∧
    ofTokens (Token.substAll 'x' [.name 'y', .operator .add, .name 'x']
        [.name 'x', .operator .power, .name 'x'])
      = .ok (binary (binary (var 'y') .add (var 'x')) .power (binary (var 'y') .add (var 'x'))) ∧
    ofTokens (Token.substAll 'x' [.name 'y', .operator .add, .name 'x']
        [.name 'x', .operator .multiply])
      = .error (.malformed (.missingOperand .multiply)) ∧
    reversePolish (Token.substAll 'x' [.name 'y', .operator .add, .name 'x'] [.name 'x', .closing])
      = .error .mismatchedBrackets ∧
    ofTokens [.opening, .name 'y', .operator .add, .name 'x', .closing, .operator .power,
        .opening, .name 'x', .closing]
      = .ok (binary (binary (var 'y') .add (var 'x')) .power (var 'x')) := by
  have hs : ofTokens [.name 'y', .operator .add, .name 'x']
      = .ok (binary (var 'y') .add (var 'x')) := by rfl
  obtain ⟨hsubst, -, hbinary⟩ := ofTokens_substAll hs
  exact ⟨hs, (hsubst 'x' _).1 (binary (var 'x') .power (var 'x')) (by rfl),
    (hsubst 'x' _).2.1 _ (by rfl), (hsubst 'x' _).2.2 _ (by rfl),
    hbinary .power [.name 'x'] (var 'x') (by rfl)⟩

end Formula

end Formulary
