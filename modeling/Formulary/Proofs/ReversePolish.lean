import Formulary.Proofs.Balance
import Formulary.Proofs.Contents

/-!
# What becomes of a row on the siding

The siding refuses a row only for its brackets, and it looks at nothing else to do so. A row that it
takes in leaves without its brackets and with all else: operands in the order in which they came,
operators in some order (`reversePolish_conserves`).
-/

namespace Formulary

/-- A row is brought into an order exactly if its brackets pair up. -/
theorem exists_reversePolish_iff {ts : List Token} :
    (∃ p, reversePolish ts = .ok p) ↔ Balanced Token.opens Token.closes ts := by
  obtain ⟨p, hp, hb⟩ | ⟨hp, hb⟩ := reversePolish_cases ts
  · exact iff_of_true ⟨p, hp⟩ hb
  · refine iff_of_false ?_ hb
    rintro ⟨p, h⟩
    cases hp.symm.trans h

/-- The only fault is that they do not. -/
theorem reversePolish_eq_error_iff {ts : List Token} {e : Fault} :
    reversePolish ts = .error e ↔
      e = .mismatchedBrackets ∧ ¬ Balanced Token.opens Token.closes ts := by
  obtain ⟨p, hp, hb⟩ | ⟨hp, hb⟩ := reversePolish_cases ts
  · refine iff_of_false ?_ fun h => h.2 hb
    intro h
    cases hp.symm.trans h
  · rw [hp]
    constructor
    · intro h
      cases h
      exact ⟨rfl, hb⟩
    · rintro ⟨rfl, -⟩
      rfl

/-- No bracket leaves. -/
theorem isBracket_of_mem_reversePolish {ts p : List Token} (h : reversePolish ts = .ok p) :
    ∀ t ∈ p, t.isBracket = false := by
  intro t ht
  have hmem := (reversePolish_eq_ok_iff.1 h).perm.mem_iff.1 ht
  simpa using (List.mem_filter.1 hmem).2

/-- Every operator leaves as often as it has come. -/
theorem operators_perm_of_reversePolish {ts p : List Token} (h : reversePolish ts = .ok p) :
    (p.filterMap Token.operator?).Perm (ts.filterMap Token.operator?) := by
  rw [← Token.filterMap_operator?_filter ts]
  exact (reversePolish_eq_ok_iff.1 h).perm.filterMap _

/-- **What becomes of a row**: it is refused exactly if its brackets do not pair up, whatever its
operands and operators are, and for no other reason. Else its brackets are gone and nothing but them
is, nothing comes twice and nothing is added: the operands keep their order, and each operator is
there as often as before. -/
theorem reversePolish_conserves (ts : List Token) :
    ((∃ p, reversePolish ts = .ok p) ↔ Balanced Token.opens Token.closes ts) ∧
    (∀ e, reversePolish ts = .error e ↔
      e = .mismatchedBrackets ∧ ¬ Balanced Token.opens Token.closes ts) ∧
    ∀ p, reversePolish ts = .ok p →
      (∀ t ∈ p, t.isBracket = false) ∧
      p.filter Token.isOperand = ts.filter Token.isOperand ∧
      (p.filterMap Token.operator?).Perm (ts.filterMap Token.operator?) ∧
      (∀ op, (p.filterMap Token.operator?).count op = (ts.filterMap Token.operator?).count op) ∧
      p.Perm (ts.filter fun t => !t.isBracket) := by
  refine ⟨exists_reversePolish_iff, fun e => reversePolish_eq_error_iff, fun p hp => ?_⟩
  have hloose := reversePolish_eq_ok_iff.1 hp
  have hops := operators_perm_of_reversePolish hp
  exact ⟨isBracket_of_mem_reversePolish hp, hloose.filter_isOperand, hops, fun op => hops.count_eq op,
    hloose.perm⟩

/-- A row with operators that lack operands, an unreadable token and a pair of brackets with nothing
inside. -/
theorem reversePolish_conserves_malformed :
    reversePolish [.operator .add, .name 'x', .opening, .closing, .operator .power, .operator .add,
        .unreadable "yz"]
      = .ok [.name 'x', .operator .power, .operator .add, .unreadable "yz", .operator .add] ∧
    Balanced Token.opens Token.closes [.operator .add, .name 'x', .opening, .closing,
      .operator .power, .operator .add, .unreadable "yz"] ∧
    [Token.name 'x', .operator .power, .operator .add, .unreadable "yz", .operator .add].Perm
      [.operator .add, .name 'x', .operator .power, .operator .add, .unreadable "yz"] := by
  have hp : reversePolish [.operator .add, .name 'x', .opening, .closing, .operator .power,
        .operator .add, .unreadable "yz"]
      = .ok [.name 'x', .operator .power, .operator .add, .unreadable "yz", .operator .add] := by
    rfl
  obtain ⟨hiff, -, hkeeps⟩ := reversePolish_conserves [.operator .add, .name 'x', .opening, .closing,
    .operator .power, .operator .add, .unreadable "yz"]
  exact ⟨hp, hiff.1 ⟨_, hp⟩, (hkeeps _ hp).2.2.2.2⟩

end Formulary
