import Formulary.Proofs.Outcome
import Formulary.Proofs.Scan.PieceByPiece
import Formulary.Token.Balance
import Formulary.Token.ReversePolish

/-!
# Brackets that pair up

Whether the brackets of a row pair up is told by counting from left to right how many of them are
open (`balanced_iff_openAfter`). The siding has a level for each open bracket, and nothing else
makes it fail: it takes in a row exactly if the brackets of the row pair up, whatever its operands
and operators are (`reversePolish_cases`). And a scan finds the brackets of a text one for one, so
the tokens pair up exactly if the characters do (`balanced_of_scan`).
-/

namespace Formulary

/-! ### Counting open brackets -/

section Count

variable {α : Type} (opens closes : α → Bool)

/-- How many brackets are open after one more member of a row. None closes where none is open. -/
def openAfterOne (n : Nat) (x : α) : Option Nat :=
  if opens x then some (n + 1)
  else if closes x then if n = 0 then none else some (n - 1)
  else some n

/-- How many brackets are open after a row, if `n` were open in front of it. -/
def openAfter (n : Nat) (xs : List α) : Option Nat := xs.foldlM (openAfterOne opens closes) n

variable {opens closes}

theorem openAfter_cons (n : Nat) (x : α) (xs : List α) :
    openAfter opens closes n (x :: xs)
      = (openAfterOne opens closes n x).bind fun m => openAfter opens closes m xs :=
  List.foldlM_cons ..

theorem openAfter_append (n : Nat) (xs ys : List α) :
    openAfter opens closes n (xs ++ ys)
      = (openAfter opens closes n xs).bind fun m => openAfter opens closes m ys :=
  List.foldlM_append ..

/-- A row without brackets leaves as many open as before. -/
theorem openAfter_of_forall {xs : List α} (h : ∀ x ∈ xs, opens x = false ∧ closes x = false)
    (n : Nat) : openAfter opens closes n xs = some n := by
  induction xs with
  | nil => rfl
  | cons x xs ih =>
    rw [List.forall_mem_cons] at h
    rw [openAfter_cons, openAfterOne, h.1.1, h.1.2]
    exact ih h.2

/-- What holds of the empty row holds of each part from the left exactly if it holds of those that
have the first member. -/
theorem forall_prefix_cons {P : List α → Prop} (hnil : P []) {x : α} {xs : List α} :
    (∀ ys, ys <+: x :: xs → P ys) ↔ ∀ ys, ys <+: xs → P (x :: ys) := by
  constructor
  · exact fun h ys hys => h _ ((List.prefix_cons_inj x).2 hys)
  · intro h ys hys
    obtain rfl | ⟨zs, rfl, hzs⟩ := List.prefix_cons_iff.1 hys
    · exact hnil
    · exact h zs hzs

/-- With `n` brackets open in front of a row, none is open behind it exactly if no part from the
left closes more than are open, and the row closes all. -/
theorem openAfter_eq_some_zero_iff (hd : ∀ x, opens x = true → closes x = false) {n : Nat}
    {xs : List α} :
    openAfter opens closes n xs = some 0 ↔
      (∀ ys, ys <+: xs → ys.countP closes ≤ n + ys.countP opens) ∧
        xs.countP closes = n + xs.countP opens := by
  induction xs generalizing n with
  | nil => simp [openAfter, eq_comm]
  | cons x xs ih =>
    rw [forall_prefix_cons (P := fun ys => ys.countP closes ≤ n + ys.countP opens) (Nat.zero_le _),
      openAfter_cons, openAfterOne]
    simp only [List.countP_cons]
    cases ho : opens x with
    | true =>
      rw [hd x ho]
      refine ih.trans (and_congr (forall₂_congr fun ys _ => ?_) ?_)
      · show _ ↔ _ + 0 ≤ n + (_ + 1)
        omega
      · show _ ↔ _ + 0 = n + (_ + 1)
        omega
    | false =>
      cases hc : closes x with
      | false => exact ih
      | true =>
        rcases n with - | n
        · -- the first member alone closes more than is open
          constructor
          · intro h
            cases h
          · rintro ⟨h, -⟩
            exact absurd (h [] List.nil_prefix) (Nat.not_succ_le_zero 0)
        · refine ih.trans (and_congr (forall₂_congr fun ys _ => ?_) ?_)
          · show _ ↔ _ + 1 ≤ n + 1 + (_ + 0)
            omega
          · show _ ↔ _ + 1 = n + 1 + (_ + 0)
            omega

/-- The brackets of a row pair up exactly if counting open brackets ends with none. -/
theorem balanced_iff_openAfter (hd : ∀ x, opens x = true → closes x = false) {xs : List α} :
    Balanced opens closes xs ↔ openAfter opens closes 0 xs = some 0 := by
  rw [openAfter_eq_some_zero_iff hd, Balanced]
  simp only [Nat.zero_add]

end Count

/-! ### The siding counts open brackets -/

theorem Token.closes_of_opens (t : Token) (h : t.opens = true) : t.closes = false := by
  cases t with
  | opening => rfl
  | number | name | operator | closing | unreadable => cases h

namespace Siding

/-- One token changes the levels of the siding as it changes the number of open brackets. A bracket
that closes where none is open is the only fault. -/
theorem step_cases (s : Siding) (t : Token) :
    (∃ s', s.step t = .ok s' ∧
      openAfterOne Token.opens Token.closes s.outer.length t = some s'.outer.length) ∨
    s.step t = .error .mismatchedBrackets ∧
      openAfterOne Token.opens Token.closes s.outer.length t = none := by
  cases t with
  | number | name | unreadable | operator | opening => exact .inl ⟨_, rfl, rfl⟩
  | closing =>
    obtain ⟨left, waiting, outer⟩ := s
    cases outer with
    | nil => exact .inr ⟨rfl, rfl⟩
    | cons ps outer => exact .inl ⟨_, rfl, rfl⟩

/-- Many tokens do as well. -/
theorem feed_cases (s : Siding) (ts : List Token) :
    (∃ s', s.feed ts = .ok s' ∧
      openAfter Token.opens Token.closes s.outer.length ts = some s'.outer.length) ∨
    s.feed ts = .error .mismatchedBrackets ∧
      openAfter Token.opens Token.closes s.outer.length ts = none := by
  induction ts generalizing s with
  | nil => exact .inl ⟨s, rfl, rfl⟩
  | cons t ts ih =>
    rw [feed_cons, openAfter_cons]
    obtain ⟨s', hs, hn⟩ | ⟨hs, hn⟩ := s.step_cases t
    · rw [hs, hn]
      exact ih s'
    · rw [hs, hn]
      exact .inr ⟨rfl, rfl⟩

end Siding

/-- The siding brings a row into an order exactly if counting open brackets ends with none, and else
refuses its brackets. -/
theorem reversePolish_cases (ts : List Token) :
    (∃ p, reversePolish ts = .ok p ∧ Balanced Token.opens Token.closes ts) ∨
    reversePolish ts = .error .mismatchedBrackets ∧ ¬ Balanced Token.opens Token.closes ts := by
  rw [balanced_iff_openAfter Token.closes_of_opens, reversePolish]
  obtain ⟨⟨left, waiting, outer⟩, hs, hn⟩ | ⟨hs, hn⟩ := Siding.start.feed_cases ts
  · have hcount : openAfter Token.opens Token.closes 0 ts = some outer.length := hn
    rw [hs, hcount]
    cases outer with
    | nil => exact .inl ⟨_, rfl, rfl⟩
    | cons ps outer => exact .inr ⟨rfl, fun h => by cases h⟩
  · have hcount : openAfter Token.opens Token.closes 0 ts = none := hn
    rw [hs, hcount]
    exact .inr ⟨rfl, fun h => by cases h⟩

/-! ### The brackets of a text -/

namespace Piece

/-- A run has no brackets, neither among its characters nor among its tokens, and a sign that is a
bracket has it as its token. -/
theorem openAfter_tokens {p : Piece} (hp : p.IsPure) (n : Nat) :
    openAfter Token.opens Token.closes n p.tokens = openAfter (· == '(') (· == ')') n p.chars := by
  have hrun : (∀ c, p ≠ sign c) → (∀ c ∈ p.chars, c ≠ '(' ∧ c ≠ ')') →
      openAfter Token.opens Token.closes n p.tokens
        = openAfter (· == '(') (· == ')') n p.chars := by
    intro hsign hchars
    rw [openAfter_of_forall, openAfter_of_forall]
    · intro c hc
      simpa using hchars c hc
    · intro t ht
      have := isOperand_of_mem_tokens hsign ht
      cases t with
      | number | name | unreadable => exact ⟨rfl, rfl⟩
      | operator | opening | closing => cases this
  cases p with
  | numeral run =>
    refine hrun (fun c => Piece.noConfusion) fun c hc => ⟨?_, ?_⟩
    all_goals
      rintro rfl
      exact absurd (hp.2 _ hc) (by decide)
  | word run =>
    refine hrun (fun c => Piece.noConfusion) fun c hc => ⟨?_, ?_⟩
    all_goals
      rintro rfl
      exact absurd (Text.isSign_of_isAlphabetic (hp.2 _ hc)) (by decide)
  | sign c =>
    by_cases ho : c = '('
    · subst ho
      rfl
    by_cases hc : c = ')'
    · subst hc
      rfl
    rw [openAfter_of_forall, openAfter_of_forall]
    · simpa [chars] using ⟨ho, hc⟩
    · intro t ht
      obtain ⟨h, -⟩ | ⟨h, -⟩ | ⟨op, -, rfl⟩ :=
        Token.ofSign?_eq_some_iff.1 (Option.mem_toList.1 ht)
      · exact absurd h ho
      · exact absurd h hc
      · exact ⟨rfl, rfl⟩

/-- The tokens of pieces have the brackets of their characters. -/
theorem openAfter_read {ps : List Piece} (hps : ∀ p ∈ ps, p.IsPure) (n : Nat) :
    openAfter Token.opens Token.closes n (read ps)
      = openAfter (· == '(') (· == ')') n (ps.flatMap chars) := by
  induction ps generalizing n with
  | nil => rfl
  | cons p ps ih =>
    rw [List.forall_mem_cons] at hps
    have hlink : ∀ m, openAfter Token.opens Token.closes m (p.link ps) = some m := by
      refine openAfter_of_forall fun t ht => ?_
      rw [eq_multiply_of_mem_link ht]
      exact ⟨rfl, rfl⟩
    rw [read, openAfter_append, openAfter_append, openAfter_tokens hps.1, List.flatMap_cons,
      openAfter_append, Option.bind_assoc]
    simp only [hlink, Option.bind_some, ih hps.2]

end Piece

/-- **The brackets of a text are those of its tokens**: they pair up among the characters exactly if
they do among the tokens. -/
theorem balanced_of_scan {text : String} {ts : List Token} (h : Token.scan text = .ok ts) :
    Balanced Token.opens Token.closes ts ↔ Balanced (· == '(') (· == ')') text.toList := by
  have hdisjoint : ∀ c : Char, (c == '(') = true → (c == ')') = false := by
    intro c hc
    rw [eq_of_beq hc]
    rfl
  have hcut := isCut_cut text.toList
  rw [balanced_iff_openAfter Token.closes_of_opens, balanced_iff_openAfter hdisjoint,
    (Piece.read_of_scan h).2, Piece.openAfter_read hcut.pure, hcut.chars]

end Formulary
