import Formulary.Formula.Compile
import Formulary.Proofs.Number.Double
import Formulary.Proofs.Outcome
import Mathlib.Tactic.SplitIfs

/-!
# What a scan finds

The classes of characters do not overlap, so digits and points are always gathered into numerals
and letters into words (`Glyph.of_numeral`, `Glyph.of_letter`). Where a numeral touches a word, the
scan goes on as if a `*` stood between them (`scan_junction`). A text of nothing but white space
has no tokens, so refusing it at once refuses no formula (`compile_eq_ok_iff`). And every number
that a scan finds is a finite double without a sign, every name a letter (`isPlain_of_scan`).
-/

namespace Formulary

/-! ### The classes of characters -/

namespace Text

/-- A character is not in two classes whose ranges do not touch. -/
theorem inRanges_eq_false_of_disjoint {rs rs' : List (Nat × Nat)}
    (h : ∀ r ∈ rs, ∀ r' ∈ rs', r.2 < r'.1 ∨ r'.2 < r.1) {c : Char} (hc : inRanges rs c = true) :
    inRanges rs' c = false := by
  rw [Bool.eq_false_iff]
  intro hc'
  obtain ⟨r, hr, h1, h2⟩ := (inRanges_iff rs c).1 hc
  obtain ⟨r', hr', h1', h2'⟩ := (inRanges_iff rs' c).1 hc'
  have := h r hr r' hr'
  omega

/-- Brackets, operators, digits and the point. -/
def signRanges : List (Nat × Nat) := [(0x28, 0x2B), (0x2D, 0x39), (0x5E, 0x5E)]

theorem isWhiteSpace_of_isAlphabetic {c : Char} (h : isAlphabetic c = true) :
    isWhiteSpace c = false :=
  @inRanges_eq_false_of_disjoint _ whiteSpaceRanges (by decide +kernel) c h

theorem isSign_of_isAlphabetic {c : Char} (h : isAlphabetic c = true) :
    inRanges signRanges c = false :=
  inRanges_eq_false_of_disjoint (by decide +kernel) h

theorem isWhiteSpace_of_isSign {c : Char} (h : inRanges signRanges c = true) :
    isWhiteSpace c = false :=
  @inRanges_eq_false_of_disjoint _ whiteSpaceRanges (by decide) c h

/-- Operators are signs. -/
theorem isSign_symbol (op : Operator) : inRanges signRanges op.symbol = true := by
  cases op <;> decide

/-- Digits and points are signs. -/
theorem isSign_of_isNumeralChar {c : Char} (h : isNumeralChar c = true) :
    inRanges signRanges c = true := by
  rcases Bool.or_eq_true _ _ ▸ h with h | h
  · obtain ⟨hlow, hhigh⟩ : 48 ≤ c.toNat ∧ c.toNat ≤ 57 := Char.isDigit_iff_toNat.1 h
    exact (inRanges_iff _ _).2 ⟨(0x2D, 0x39), by decide, by omega, hhigh⟩
  · rw [beq_iff_eq.1 h]
    decide

/-- A letter is neither a digit nor a point. -/
theorem isNumeralChar_of_isAlphabetic {c : Char} (h : isAlphabetic c = true) :
    isNumeralChar c = false := by
  rw [Bool.eq_false_iff]
  intro hn
  exact Bool.false_ne_true ((isSign_of_isAlphabetic h).symm.trans (isSign_of_isNumeralChar hn))

end Text

namespace Glyph

theorem of_blank {c : Char} (h : Text.isWhiteSpace c = true) : of c = .blank := by
  rw [of, if_pos h]

theorem of_symbol (op : Operator) : of op.symbol = .sign := by
  cases op <;> decide

/-- Digits and points are gathered into numerals. -/
theorem of_numeral {c : Char} (h : isNumeralChar c = true) : of c = .numeral := by
  have hs := Text.isSign_of_isNumeralChar h
  have hop : c ∉ ['+', '-', '*', '/', '^'] := by
    rw [Operator.mem_signs_iff]
    rintro ⟨op, rfl⟩
    cases op <;> cases h
  have h1 : c ≠ '(' := by rintro rfl; cases h
  have h2 : c ≠ ')' := by rintro rfl; cases h
  rw [of, Text.isWhiteSpace_of_isSign hs, if_neg Bool.false_ne_true, if_neg h1, if_neg h2,
    if_neg hop, if_pos h]

/-- Letters are gathered into words. -/
theorem of_letter {c : Char} (h : Text.isAlphabetic c = true) : of c = .letter := by
  have hs := Text.isSign_of_isAlphabetic h
  have hn := Text.isNumeralChar_of_isAlphabetic h
  have hop : c ∉ ['+', '-', '*', '/', '^'] := by
    rw [Operator.mem_signs_iff]
    rintro ⟨op, rfl⟩
    exact absurd (hs.symm.trans (Text.isSign_symbol op)) Bool.false_ne_true
  have h1 : c ≠ '(' := by rintro rfl; exact absurd hs (by decide)
  have h2 : c ≠ ')' := by rintro rfl; exact absurd hs (by decide)
  rw [of, Text.isWhiteSpace_of_isAlphabetic h, if_neg Bool.false_ne_true, if_neg h1, if_neg h2,
    if_neg hop, hn, if_neg Bool.false_ne_true, if_pos h]

theorem isAlphabetic_of_letter {c : Char} (h : of c = .letter) : Text.isAlphabetic c = true := by
  rw [of] at h
  split_ifs at h with _ _ _ _ _ ha
  exact ha

/-- What is taken for a sign is one, so it stands for an operator. -/
theorem exists_symbol_of_sign {c : Char} (h : of c = .sign) : ∃ op : Operator, c = op.symbol := by
  rw [of] at h
  split_ifs at h with _ _ _ hop
  exact Operator.mem_signs_iff.1 hop

end Glyph

namespace Scanner

/-! ### Runs that end -/

/-- Ending a run is the same whatever comes behind it. -/
theorem endRun_eq (s : Scanner) (behind : List Token) (next : Run) :
    s.endRun behind next = (s.endRun [] .none).map fun t => ⟨behind ++ t.found, next⟩ := by
  rw [endRun, endRun]
  cases s.pending.tokens with
  | error e => rfl
  | ok ts =>
    show Except.ok (Scanner.mk (behind ++ ts ++ s.found) next) = _
    rw [List.append_assoc]
    rfl

theorem step_mark {c : Char} {t : Token} (h : Glyph.of c = .mark t) (s : Scanner) :
    s.step c = s.endRun [t] .none := by
  rw [step, h]

/-- A scan never meets a sign that no operator has. -/
theorem step_symbol (s : Scanner) (op : Operator) :
    s.step op.symbol = s.endRun [.operator op] .none := by
  rw [step, Glyph.of_symbol, Operator.ofSymbol_eq_ok_iff.2 rfl, endRun_eq s [.operator op]]
  cases s.endRun [] .none <;> rfl

theorem feed_append_of_ok {s t : Scanner} {cs : List Char} (h : s.feed cs = .ok t)
    (ds : List Char) : s.feed (cs ++ ds) = t.feed ds := by
  rw [feed_append, h]
  rfl

/-- White space adds nothing where there is no run to end. -/
theorem feed_blank {cs : List Char} (h : cs.all Text.isWhiteSpace = true) (found : List Token) :
    feed ⟨found, .none⟩ cs = .ok ⟨found, .none⟩ := by
  induction cs with
  | nil => rfl
  | cons c cs ih =>
    rw [List.all_cons, Bool.and_eq_true] at h
    rw [feed_cons, step, Glyph.of_blank h.1]
    exact ih h.2

/-- If every character of a run goes into the run that is being gathered, all of them do. -/
theorem feed_run {gather : List Char → Run} {run : List Char} {found : List Token}
    (h : ∀ c ∈ run, ∀ cs, step ⟨found, gather cs⟩ c = .ok ⟨found, gather (c :: cs)⟩)
    (cs : List Char) :
    feed ⟨found, gather cs⟩ run = .ok ⟨found, gather (run.reverse ++ cs)⟩ := by
  induction run generalizing cs with
  | nil => rfl
  | cons c run ih =>
    rw [List.forall_mem_cons] at h
    rw [feed_cons, h.1]
    show feed ⟨found, gather (c :: cs)⟩ run = _
    rw [ih h.2, List.reverse_cons, List.append_assoc, List.singleton_append]

/-- Digits and points go on with a numeral. -/
theorem feed_numeral {run : List Char} (h : ∀ c ∈ run, isNumeralChar c = true)
    (found : List Token) (cs : List Char) :
    feed ⟨found, .numeral cs⟩ run = .ok ⟨found, .numeral (run.reverse ++ cs)⟩ := by
  refine feed_run ?_ cs
  intro c hc cs
  rw [step, Glyph.of_numeral (h c hc)]

/-- Digits and points are gathered into one numeral. -/
theorem feed_whole_numeral {run : List Char} (h : ∀ c ∈ run, isNumeralChar c = true)
    (hne : run ≠ []) (found : List Token) :
    feed ⟨found, .none⟩ run = .ok ⟨found, .numeral run.reverse⟩ := by
  obtain ⟨c, run, rfl⟩ := List.exists_cons_of_ne_nil hne
  rw [List.forall_mem_cons] at h
  rw [feed_cons, step, Glyph.of_numeral h.1, List.reverse_cons]
  exact feed_numeral h.2 found [c]

/-- Letters go on with a word. -/
theorem feed_word {run : List Char} (h : ∀ c ∈ run, Text.isAlphabetic c = true)
    (found : List Token) (cs : List Char) :
    feed ⟨found, .word cs⟩ run = .ok ⟨found, .word (run.reverse ++ cs)⟩ := by
  refine feed_run ?_ cs
  intro c hc cs
  rw [step, Glyph.of_letter (h c hc)]

/-! ### Unwritten products -/

theorem pending_of_step_numeral {s t : Scanner} {c : Char} (hc : Glyph.of c = .numeral)
    (h : s.step c = .ok t) : ∃ cs, t.pending = .numeral cs := by
  rw [step, hc] at h
  cases hp : s.pending with
  | none | numeral cs =>
    rw [hp] at h
    cases h
    exact ⟨_, rfl⟩
  | word cs =>
    rw [hp] at h
    dsimp only at h
    rw [endRun_eq, map_eq_ok_iff] at h
    obtain ⟨u, -, rfl⟩ := h
    exact ⟨_, rfl⟩

theorem pending_of_step_letter {s t : Scanner} {c : Char} (hc : Glyph.of c = .letter)
    (h : s.step c = .ok t) : ∃ cs, t.pending = .word cs := by
  rw [step, hc] at h
  cases hp : s.pending with
  | none | word cs =>
    rw [hp] at h
    cases h
    exact ⟨_, rfl⟩
  | numeral cs =>
    rw [hp] at h
    dsimp only at h
    rw [endRun_eq, map_eq_ok_iff] at h
    obtain ⟨u, -, rfl⟩ := h
    exact ⟨_, rfl⟩

/-- A letter behind a numeral, or a digit or point behind a word, is taken as if a `*` stood in
front of it. -/
theorem step_junction {s : Scanner} {cs : List Char} {d : Char}
    (h : s.pending = .numeral cs ∧ Glyph.of d = .letter ∨
      s.pending = .word cs ∧ Glyph.of d = .numeral) :
    s.step d = s.step '*' >>= fun t => t.step d := by
  rw [show s.step '*' = s.endRun [.operator .multiply] .none from s.step_symbol .multiply,
    endRun_eq]
  rcases h with ⟨hp, hd⟩ | ⟨hp, hd⟩
  all_goals
    rw [step, hd, hp]
    dsimp only
    rw [endRun_eq]
    cases s.endRun [] .none with
    | error e => rfl
    | ok t =>
      show _ = step _ d
      rw [step, hd]
      rfl

end Scanner

/-- **An unwritten product is a written one**: where a digit or point touches a letter, in either
order, a `*` between them changes nothing. -/
theorem scan_junction (as bs : List Char) {c d : Char}
    (h : isNumeralChar c = true ∧ Text.isAlphabetic d = true ∨
      Text.isAlphabetic c = true ∧ isNumeralChar d = true) :
    Token.scan (.ofList (as ++ c :: d :: bs))
      = Token.scan (.ofList (as ++ c :: '*' :: d :: bs)) := by
  have key : ∀ s : Scanner, s.feed (c :: d :: bs) = s.feed (c :: '*' :: d :: bs) := by
    intro s
    simp only [Scanner.feed_cons]
    cases hs : s.step c with
    | error e => rfl
    | ok t =>
      show (t.step d >>= fun u => u.feed bs)
        = (t.step '*' >>= fun u => u.step d >>= fun v => v.feed bs)
      have hj : t.step d = t.step '*' >>= fun u => u.step d := by
        rcases h with ⟨hc, hd⟩ | ⟨hc, hd⟩
        · obtain ⟨cs, hp⟩ := Scanner.pending_of_step_numeral (Glyph.of_numeral hc) hs
          exact Scanner.step_junction (.inl ⟨hp, Glyph.of_letter hd⟩)
        · obtain ⟨cs, hp⟩ := Scanner.pending_of_step_letter (Glyph.of_letter hc) hs
          exact Scanner.step_junction (.inr ⟨hp, Glyph.of_numeral hd⟩)
      rw [hj, bind_assoc]
  simp only [Token.scan, String.toList_ofList, Scanner.feed_append, key]

/-! ### Blank texts -/

theorem scan_of_isBlank {text : String} (h : Formula.isBlank text = true) :
    Token.scan text = .ok [] := by
  rw [Token.scan, Scanner.start, Scanner.feed_blank h]
  rfl

/-- A text stands for the formula that its tokens stand for. -/
theorem compile_eq_ok_iff {text : String} {f : Formula} :
    Formula.compile text = .ok f ↔ ∃ ts, Token.scan text = .ok ts ∧ Formula.ofTokens ts = .ok f := by
  rw [← bind_eq_ok_iff, Formula.compile]
  split_ifs with h
  · rw [scan_of_isBlank h]
    constructor
    · intro h
      cases h
    · intro h
      cases h
  · rfl

/-! ### What the tokens are made of -/

/-- A token is plain if it is written with digits or a letter where it is an operand: a number is
finite and has no sign, a name is a letter. -/
def Token.IsPlain : Token → Prop
  | number x => x.isFinite = true ∧ Magnitude.signBit x = false
  | name c => Text.isAlphabetic c = true
  | operator _ | opening | closing | unreadable _ => True

theorem Glyph.isPlain_of_mark {c : Char} {t : Token} (h : of c = .mark t) : t.IsPlain := by
  rw [of] at h
  split_ifs at h
  all_goals
    cases h
    trivial

theorem Token.isPlain_of_ofNumeral {run : List Char} {t : Token} (h : ofNumeral run = .ok t) :
    t.IsPlain := by
  rw [ofNumeral] at h
  cases hd : Numeral.decimal? run with
  | none =>
    rw [hd] at h
    cases h
    trivial
  | some d =>
    rw [hd] at h
    dsimp only at h
    cases hx : d.toFloat? with
    | none => rw [hx] at h; cases h
    | some x =>
      rw [hx] at h
      cases h
      exact ⟨Magnitude.isFinite_of_toFloat? hx, Magnitude.signBit_of_toFloat? hx⟩

theorem Token.isPlain_ofWord {run : List Char} (h : ∀ c ∈ run, Text.isAlphabetic c = true) :
    (ofWord run).IsPlain := by
  unfold ofWord
  split
  · exact h _ (List.mem_singleton.2 rfl)
  · trivial

namespace Scanner

/-- A run of letters has only letters. -/
def Run.IsPlain : Run → Prop
  | word cs => ∀ c ∈ cs, Text.isAlphabetic c = true
  | none | numeral _ => True

theorem Run.isPlain_none : none.IsPlain := trivial

theorem Run.isPlain_numeral (cs : List Char) : (numeral cs).IsPlain := trivial

theorem Run.isPlain_of_mem_tokens {run : Run} (hr : run.IsPlain) {ts : List Token}
    (h : run.tokens = .ok ts) : ∀ t ∈ ts, t.IsPlain := by
  cases run with
  | none =>
    cases h
    exact List.forall_mem_nil _
  | numeral cs =>
    obtain ⟨t, ht, rfl⟩ := map_eq_ok_iff.1 h
    exact List.forall_mem_singleton.2 (Token.isPlain_of_ofNumeral ht)
  | word cs =>
    cases h
    have hcs : ∀ c ∈ cs.reverse, Text.isAlphabetic c = true :=
      fun c hc => hr c (List.mem_reverse.1 hc)
    exact List.forall_mem_singleton.2 (Token.isPlain_ofWord hcs)

/-- All tokens found so far are plain, and the run that is being gathered will be. -/
structure IsPlain (s : Scanner) : Prop where
  found : ∀ t ∈ s.found, t.IsPlain
  pending : s.pending.IsPlain

theorem IsPlain.endRun {s s' : Scanner} (hs : s.IsPlain) {behind : List Token} {next : Run}
    (hb : ∀ t ∈ behind, t.IsPlain) (hn : next.IsPlain) (h : s.endRun behind next = .ok s') :
    s'.IsPlain := by
  obtain ⟨ts, hts, h⟩ := bind_eq_ok_iff.1 h
  cases h
  refine ⟨?_, hn⟩
  intro t ht
  rcases List.mem_append.1 ht with ht | ht
  · rcases List.mem_append.1 ht with ht | ht
    · exact hb t ht
    · exact Run.isPlain_of_mem_tokens hs.pending hts t ht
  · exact hs.found t ht

theorem IsPlain.step {s s' : Scanner} {c : Char} (hs : s.IsPlain) (h : s.step c = .ok s') :
    s'.IsPlain := by
  have hop (op : Operator) : ∀ t ∈ [Token.operator op], t.IsPlain :=
    List.forall_mem_singleton.2 trivial
  cases hg : Glyph.of c with
  | foreign =>
    rw [Scanner.step, hg] at h
    cases h
  | blank =>
    rw [Scanner.step, hg] at h
    exact hs.endRun (List.forall_mem_nil _) Run.isPlain_none h
  | mark t =>
    rw [step_mark hg] at h
    have ht := List.forall_mem_singleton.2 (Glyph.isPlain_of_mark hg)
    exact hs.endRun ht Run.isPlain_none h
  | sign =>
    obtain ⟨op, rfl⟩ := Glyph.exists_symbol_of_sign hg
    rw [step_symbol] at h
    exact hs.endRun (hop op) Run.isPlain_none h
  | numeral =>
    rw [Scanner.step, hg] at h
    cases hp : s.pending with
    | none | numeral cs =>
      rw [hp] at h
      cases h
      exact ⟨hs.found, trivial⟩
    | word cs =>
      rw [hp] at h
      exact hs.endRun (hop .multiply) (Run.isPlain_numeral [c]) h
  | letter =>
    rw [Scanner.step, hg] at h
    have hc := Glyph.isAlphabetic_of_letter hg
    have hone : (Run.word [c]).IsPlain := List.forall_mem_singleton.2 hc
    cases hp : s.pending with
    | none =>
      rw [hp] at h
      cases h
      exact ⟨hs.found, hone⟩
    | word cs =>
      rw [hp] at h
      cases h
      have hcs : (Run.word cs).IsPlain := hp ▸ hs.pending
      exact ⟨hs.found, List.forall_mem_cons.2 ⟨hc, hcs⟩⟩
    | numeral cs =>
      rw [hp] at h
      exact hs.endRun (hop .multiply) hone h

end Scanner

/-- **Whatever a scan finds is plain**: every number is finite and has no sign, and every name is a
letter. -/
theorem isPlain_of_scan {text : String} {ts : List Token} (h : Token.scan text = .ok ts) :
    ∀ t ∈ ts, t.IsPlain := by
  obtain ⟨s, hs, h⟩ := bind_eq_ok_iff.1 h
  obtain ⟨s', hs', rfl⟩ := map_eq_ok_iff.1 h
  have hstart : Scanner.start.IsPlain := ⟨List.forall_mem_nil _, Scanner.Run.isPlain_none⟩
  have hlast := foldlM_keeps Scanner.IsPlain.step hstart hs
  have hend := hlast.endRun (List.forall_mem_nil _) Scanner.Run.isPlain_none hs'
  exact fun t ht => hend.found t (List.mem_reverse.1 ht)

end Formulary
