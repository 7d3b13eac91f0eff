import Formulary.Proofs.RoundTrip
import Formulary.Proofs.Scan.PieceByPiece

/-!
# What a formula keeps of its text

Bringing tokens into reverse Polish order moves operators and leaves operands in their order, and
assembly makes a leaf of every operand. So a formula has the numbers and names of its text from left
to right, and its operators in some order (`leaves_of_compile`). This holds for every text that
stands for a formula, whether or not its tokens are a phrase of the grammar.

A name is a letter of the text. A longer run of letters is unreadable, so a text that stands for a
formula has no letters but its names, and the variables are its letters in the order in which they
first appear.
-/

namespace Formulary

namespace Token

/-- Whether a token can be a leaf of a formula: a number or a name. -/
def isLeaf : Token → Bool
  | number _ | name _ => true
  | operator _ | opening | closing | unreadable _ => false

/-- The operator of a token. -/
def operator? : Token → Option Operator
  | operator op => some op
  | number _ | name _ | opening | closing | unreadable _ => none

/-- The letters in the text of a token. -/
def letters : Token → List Char
  | name c => [c]
  | unreadable text => text.toList.filter Text.isAlphabetic
  | number _ | operator _ | opening | closing => []

/-- Letters stand in operands. -/
theorem flatMap_letters_filter (ts : List Token) :
    (ts.filter isOperand).flatMap letters = ts.flatMap letters := by
  induction ts with
  | nil => rfl
  | cons t ts ih =>
    cases t with
    | number | name | unreadable => rw [List.filter_cons_of_pos rfl, List.flatMap_cons, ih]; rfl
    | operator | opening | closing =>
      rw [List.filter_cons_of_neg Bool.noConfusion, ih]
      rfl

/-- Operators are no brackets. -/
theorem filterMap_operator?_filter (ts : List Token) :
    (ts.filter fun t => !t.isBracket).filterMap operator? = ts.filterMap operator? := by
  induction ts with
  | nil => rfl
  | cons t ts ih =>
    cases t with
    | number | name | unreadable | operator =>
      rw [List.filter_cons_of_pos rfl, List.filterMap_cons, List.filterMap_cons, ih]
    | opening | closing =>
      rw [List.filter_cons_of_neg Bool.noConfusion, ih]
      rfl

end Token

/-! ### The letters of a text -/

namespace Piece

/-- The letters of a piece are in its tokens. -/
theorem flatMap_letters_tokens {p : Piece} (hp : p.IsPure) :
    p.tokens.flatMap Token.letters = p.chars.filter Text.isAlphabetic := by
  cases p with
  | numeral run =>
    have hnone : run.filter Text.isAlphabetic = [] := by
      rw [List.filter_eq_nil_iff]
      intro c hc ha
      exact Bool.false_ne_true
        ((Text.isNumeralChar_of_isAlphabetic ha).symm.trans (hp.2 c hc))
    rw [tokens, chars, hnone]
    split
    · cases (Numeral.value run).toFloat? with
      | none | some x => rfl
    · show (String.ofList run).toList.filter Text.isAlphabetic ++ [] = []
      rw [String.toList_ofList, hnone]
      rfl
  | word run =>
    have hall : run.filter Text.isAlphabetic = run := List.filter_eq_self.2 hp.2
    rw [chars, hall]
    rcases run with - | ⟨c, - | ⟨d, run⟩⟩
    · exact absurd rfl hp.1
    · rfl
    · show (String.ofList (c :: d :: run)).toList.filter Text.isAlphabetic ++ [] = _
      rw [String.toList_ofList, hall, List.append_nil]
  | sign c =>
    have hnone : [c].filter Text.isAlphabetic = [] := by
      rw [List.filter_singleton, hp.2]
      rfl
    rw [tokens, chars, hnone]
    cases ht : Token.ofSign? c with
    | none => rfl
    | some t => obtain ⟨-, rfl⟩ | ⟨-, rfl⟩ | ⟨op, -, rfl⟩ := Token.ofSign?_eq_some_iff.1 ht <;> rfl

/-- The letters of pieces are in their tokens. -/
theorem flatMap_letters_read {ps : List Piece} (hps : ∀ p ∈ ps, p.IsPure) :
    (read ps).flatMap Token.letters = (ps.flatMap chars).filter Text.isAlphabetic := by
  induction ps with
  | nil => rfl
  | cons p ps ih =>
    rw [List.forall_mem_cons] at hps
    have hlink : (p.link ps).flatMap Token.letters = [] := by
      rw [List.flatMap_eq_nil_iff]
      intro t ht
      rw [eq_multiply_of_mem_link ht]
      rfl
    rw [read, List.flatMap_append, List.flatMap_append, flatMap_letters_tokens hps.1, hlink,
      List.append_nil, ih hps.2, List.flatMap_cons, List.filter_append]

end Piece

/-- **No letter of a text is lost**: those of its tokens are those of the text, in the same order.
-/
theorem flatMap_letters_of_scan {text : String} {ts : List Token} (h : Token.scan text = .ok ts) :
    ts.flatMap Token.letters = text.toList.filter Text.isAlphabetic := by
  have hcut := isCut_cut text.toList
  rw [(Piece.read_of_scan h).2, Piece.flatMap_letters_read hcut.pure, hcut.chars]

namespace Formula

/-! ### The leaves and operators of a formula -/

theorem filter_isLeaf_leaves (f : Formula) : f.leaves.filter Token.isLeaf = f.leaves := by
  induction f with
  | const | var => rfl
  | binary l op r ihl ihr => rw [leaves, List.filter_append, ihl, ihr]

/-- The letters in the leaves of a formula are its variables. -/
theorem flatMap_letters_leaves (f : Formula) : f.leaves.flatMap Token.letters = f.occurrences := by
  induction f with
  | const | var => rfl
  | binary l op r ihl ihr => rw [leaves, List.flatMap_append, ihl, ihr, occurrences]

/-- Laid flat, a formula has its operators in another order. -/
theorem operators_perm (f : Formula) :
    f.operators.Perm (f.toReversePolish.filterMap Token.operator?) := by
  induction f with
  | const | var => exact .nil
  | binary l op r ihl ihr =>
    rw [toReversePolish, List.filterMap_append, List.filterMap_append, operators, List.append_assoc]
    exact ihl.append ((ihr.cons op).trans (List.perm_append_singleton op _).symm)

/-- The operands of a row that stands for a formula are the leaves of the formula, so all of them
are readable. -/
theorem leaves_eq_filter_isOperand {ts : List Token} {f : Formula} (h : ofTokens ts = .ok f) :
    f.leaves = ts.filter Token.isOperand := by
  rw [← filter_isOperand_toReversePolish, (ofTokens_eq_ok_iff.1 h).filter_isOperand]

theorem leaves_eq_filter_isLeaf {ts : List Token} {f : Formula} (h : ofTokens ts = .ok f) :
    f.leaves = ts.filter Token.isLeaf := by
  rw [← filter_isLeaf_leaves, leaves_eq_filter_isOperand h, List.filter_filter]
  refine List.filter_congr fun t _ => ?_
  cases t <;> rfl

/-- **Nothing of a text is lost or reordered in its formula**: the leaves from left to right are the
numbers and names among its tokens, the operators are those among its tokens in some order, and the
variables are the letters of the text in the order in which they first appear, each of them once. -/
theorem leaves_of_compile {text : String} {f : Formula} (h : compile text = .ok f) :
    ∃ ts, Token.scan text = .ok ts ∧
      f.leaves = ts.filter Token.isLeaf ∧
      f.operators.Perm (ts.filterMap Token.operator?) ∧
      f.vars = (text.toList.filter Text.isAlphabetic).eraseDups ∧
      f.vars.Nodup ∧ ∀ c, c ∈ f.vars ↔ c ∈ text.toList ∧ Text.isAlphabetic c = true := by
  obtain ⟨ts, hs, hf⟩ := compile_eq_ok_iff.1 h
  have hperm := (ofTokens_eq_ok_iff.1 hf).perm.filterMap Token.operator?
  rw [Token.filterMap_operator?_filter] at hperm
  have hvars : f.vars = (text.toList.filter Text.isAlphabetic).eraseDups := by
    rw [vars_eq_eraseDups, ← flatMap_letters_leaves, leaves_eq_filter_isOperand hf,
      Token.flatMap_letters_filter, flatMap_letters_of_scan hs]
  refine ⟨ts, hs, leaves_eq_filter_isLeaf hf, f.operators_perm.trans hperm, hvars,
    f.nodup_addVars List.nodup_nil, fun c => ?_⟩
  rw [hvars, List.mem_eraseDups, List.mem_filter]

/-- In `x y x + *` both operators stand behind all operands, and a variable occurs twice. -/
theorem leaves_of_compile_repeated :
    compile "x y x + *"
      = .ok (binary (var 'x') .add (binary (var 'y') .multiply (var 'x'))) ∧
    Token.scan "x y x + *" = .ok [.name 'x', .name 'y', .name 'x', .operator .add,
      .operator .multiply] ∧
    (binary (var 'x') .add (binary (var 'y') .multiply (var 'x'))).leaves
      = [.name 'x', .name 'y', .name 'x'] ∧
    (binary (var 'x') .add (binary (var 'y') .multiply (var 'x'))).operators.Perm
      [.add, .multiply] ∧
    (binary (var 'x') .add (binary (var 'y') .multiply (var 'x'))).vars = ['x', 'y'] := by
  have hc : compile "x y x + *"
      = .ok (binary (var 'x') .add (binary (var 'y') .multiply (var 'x'))) := by rfl
  obtain ⟨ts, hs, hleaves, hops, hvars, -, -⟩ := leaves_of_compile hc
  have hts : Token.scan "x y x + *" = .ok [.name 'x', .name 'y', .name 'x', .operator .add,
      .operator .multiply] := by rfl
  obtain rfl := Except.ok.inj (hs.symm.trans hts)
  exact ⟨hc, hts, hleaves, hops, hvars.trans (by decide +kernel)⟩

end Formula

end Formulary
