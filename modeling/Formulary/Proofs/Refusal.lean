import Formulary.Proofs.Balance
import Formulary.Proofs.ReversePolish

/-!
# Why a text is refused

A text passes through stages, and its fault is that of the first stage which has one. Yet the stage
can be told from the text itself (`compile_outcome`): there is nothing but white space in it, or it
cannot be scanned, or its brackets do not pair up, or there is nothing but white space and brackets
in it. If none of these is the case, there is a formula, or assembly says what is wrong. Faults of
evaluation never arise, and neither do those of assembly and of operators that need a token or a
sign which no scan finds.
-/

namespace Formulary

/-! ### The faults of the stages -/

namespace Fault

/-- Whether a fault is one of a scan: a character without meaning, or a numeral beyond all
doubles. -/
def isOfScan : Fault → Bool
  | malformed (.invalidCharacter _) | malformed (.outOfRange _) => true
  | _ => false

/-- Whether a fault is one of assembly, where there is something to assemble: an operator lacks an
operand, a token is unreadable, or operands are left over. -/
def isOfAssembly : Fault → Bool
  | malformed (.missingOperand _) | malformed (.unreadable _) | malformed .surplusOperands => true
  | _ => false

theorem isOfAssembly_iff {e : Fault} :
    e.isOfAssembly = true ↔ (∃ op, e = malformed (.missingOperand op)) ∨
      (∃ s, e = malformed (.unreadable s)) ∨ e = malformed .surplusOperands := by
  constructor
  · intro h
    unfold isOfAssembly at h
    split at h
    · exact .inl ⟨_, rfl⟩
    · exact .inr (.inl ⟨_, rfl⟩)
    · exact .inr (.inr rfl)
    · cases h
  · rintro (⟨op, rfl⟩ | ⟨s, rfl⟩ | rfl) <;> rfl

end Fault

theorem Piece.isOfScan_of_mem_flaws {ps : List Piece} {i : Nat} {v : Flaw} (h : v ∈ flaws i ps) :
    (Fault.malformed v.cause).isOfScan = true := by
  induction ps generalizing i with
  | nil => exact absurd h List.not_mem_nil
  | cons p ps ih =>
    rcases List.mem_append.1 h with h | h
    · have hv := Option.mem_toList.1 h
      cases p with
      | word run => cases hv
      | numeral run | sign c =>
        rw [flaw?] at hv
        split_ifs at hv
        cases hv
        rfl
    · exact ih h

/-- A text that cannot be scanned has a fault of a scan. -/
theorem isOfScan_of_scan {text : String} {e : Fault} (h : Token.scan text = .error e) :
    e.isOfScan = true := by
  obtain ⟨v, hv, rfl⟩ := ((Piece.scan_iff text).2 e).1 h
  exact Piece.isOfScan_of_mem_flaws hv.1

namespace Formula

theorem isOfAssembly_of_assembleStep {stack : List Formula} {t : Token} {e : Fault}
    (ht : t.isBracket = false) (h : assembleStep stack t = .error e) : e.isOfAssembly = true := by
  cases t with
  | number | name => cases h
  | opening | closing => cases ht
  | unreadable text =>
    cases h
    rfl
  | operator op =>
    rcases stack with - | ⟨r, - | ⟨l, rest⟩⟩
    · cases h
      rfl
    · cases h
      rfl
    · cases h

/-- From a row that has something in it, and no brackets, a formula is assembled, or there is a
fault of assembly. -/
theorem ofReversePolish_cases {p : List Token} (hne : p ≠ [])
    (hp : ∀ t ∈ p, t.isBracket = false) :
    (∃ f, ofReversePolish p = .ok f) ∨
      ∃ e, ofReversePolish p = .error e ∧ e.isOfAssembly = true := by
  cases h : ofReversePolish p with
  | ok f => exact .inl ⟨f, rfl⟩
  | error e =>
    refine .inr ⟨e, rfl, ?_⟩
    rcases bind_eq_error_iff.1 h with h | ⟨stack, hs, h⟩
    · obtain ⟨stack, t, ht, h⟩ := exists_of_foldlM_eq_error h
      exact isOfAssembly_of_assembleStep (hp t ht) h
    · rcases stack with - | ⟨f, - | ⟨g, rest⟩⟩
      · exact absurd (assemble_eq_ok_iff.1 hs) hne
      · cases h
      · cases h
        rfl

end Formula

/-! ### Texts of white space and brackets -/

/-- Whether a character is white space or a bracket. -/
def Text.IsBare (c : Char) : Prop := isWhiteSpace c = true ∨ c = '(' ∨ c = ')'

/-- White space and brackets leave brackets. -/
theorem Scanner.feed_bare {cs : List Char} (h : ∀ c ∈ cs, Text.IsBare c) (found : List Token) :
    ∃ ts, feed ⟨found, .none⟩ cs = .ok ⟨ts ++ found, .none⟩ ∧ ∀ t ∈ ts, t.isBracket = true := by
  induction cs generalizing found with
  | nil => exact ⟨[], rfl, List.forall_mem_nil _⟩
  | cons c cs ih =>
    rw [List.forall_mem_cons] at h
    have hmark : ∀ t : Token, t.isBracket = true → Glyph.of c = .mark t →
        ∃ ts, feed ⟨found, .none⟩ (c :: cs) = .ok ⟨ts ++ found, .none⟩ ∧
          ∀ t ∈ ts, t.isBracket = true := by
      intro t ht hc
      obtain ⟨ts, hf, hts⟩ := ih h.2 (t :: found)
      refine ⟨ts ++ [t], ?_, ?_⟩
      · rw [feed_cons, step_mark hc, List.append_assoc]
        exact hf
      · intro u hu
        rcases List.mem_append.1 hu with hu | hu
        · exact hts u hu
        · rwa [List.mem_singleton.1 hu]
    rcases h.1 with hc | rfl | rfl
    · rw [feed_cons, step, Glyph.of_blank hc]
      exact ih h.2 found
    · exact hmark .opening rfl (by decide)
    · exact hmark .closing rfl (by decide)

theorem scan_of_isBare {text : String} (h : ∀ c ∈ text.toList, Text.IsBare c) :
    ∃ ts, Token.scan text = .ok ts ∧ ∀ t ∈ ts, t.isBracket = true := by
  obtain ⟨ts, hf, hts⟩ := Scanner.feed_bare h []
  refine ⟨ts.reverse, ?_, fun t ht => hts t (List.mem_reverse.1 ht)⟩
  rw [Token.scan, Scanner.start, hf, List.append_nil]
  rfl

namespace Piece

/-- A piece that leaves nothing but brackets is white space or a bracket. -/
theorem isBare_of_tokens {p : Piece} {i : Nat} (hflaw : p.flaw? i = none)
    (h : ∀ t ∈ p.tokens, t.isBracket = true) : ∀ c ∈ p.chars, Text.IsBare c := by
  by_cases hrun : ∀ c, p ≠ sign c
  · obtain ⟨t, ht⟩ := List.exists_mem_of_ne_nil _ (tokens_ne_nil hrun hflaw)
    have hoperand := isOperand_of_mem_tokens hrun ht
    have hbracket := h t ht
    cases t with
    | number | name | unreadable => cases hbracket
    | operator | opening | closing => cases hoperand
  · push Not at hrun
    obtain ⟨c, rfl⟩ := hrun
    refine List.forall_mem_singleton.2 ?_
    rw [flaw?] at hflaw
    split_ifs at hflaw with hc
    rcases hc with hc | hc
    · exact .inl hc
    · obtain ⟨t, ht⟩ := Option.isSome_iff_exists.1 hc
      have hbracket := h t (Option.mem_toList.2 ht)
      obtain ⟨rfl, -⟩ | ⟨rfl, -⟩ | ⟨op, -, rfl⟩ := Token.ofSign?_eq_some_iff.1 ht
      · exact .inr (.inl rfl)
      · exact .inr (.inr rfl)
      · cases hbracket

theorem isBare_of_read {ps : List Piece} {i : Nat} (hflaws : flaws i ps = [])
    (h : ∀ t ∈ read ps, t.isBracket = true) : ∀ c ∈ ps.flatMap chars, Text.IsBare c := by
  induction ps generalizing i with
  | nil => exact List.forall_mem_nil _
  | cons p ps ih =>
    rw [flaws, List.append_eq_nil_iff, Option.toList_eq_nil_iff] at hflaws
    rw [read, List.forall_mem_append, List.forall_mem_append] at h
    rw [List.flatMap_cons, List.forall_mem_append]
    exact ⟨isBare_of_tokens hflaws.1 h.1.1, ih hflaws.2 h.2⟩

end Piece

/-- The tokens of a text are all brackets exactly if its characters are all white space and
brackets. -/
theorem forall_isBracket_iff {text : String} {ts : List Token} (h : Token.scan text = .ok ts) :
    (∀ t ∈ ts, t.isBracket = true) ↔ ∀ c ∈ text.toList, Text.IsBare c := by
  constructor
  · intro hts
    obtain ⟨hflaws, rfl⟩ := Piece.read_of_scan h
    rw [← (isCut_cut text.toList).chars]
    exact Piece.isBare_of_read hflaws hts
  · intro hcs
    obtain ⟨us, hs, hus⟩ := scan_of_isBare hcs
    rwa [Except.ok.inj (h.symm.trans hs)]

namespace Formula

/-! ### The stage at which a text is refused -/

theorem isBlank_iff {text : String} :
    isBlank text = true ↔ ∀ c ∈ text.toList, Text.isWhiteSpace c = true :=
  List.all_eq_true

/-- The brackets of a text pair up, as characters. -/
abbrev PairsUp (text : String) : Prop := Balanced (· == '(') (· == ')') text.toList

/-- White space alone is refused at once. -/
theorem compile_of_blank {text : String} (h : ∀ c ∈ text.toList, Text.isWhiteSpace c = true) :
    compile text = .error (.malformed .blank) := by
  rw [compile, if_pos (isBlank_iff.2 h)]

/-- A text that cannot be scanned has the fault of the scan. -/
theorem compile_of_scan_eq_error {text : String} {e : Fault} (h : Token.scan text = .error e) :
    compile text = .error e := by
  have hblank : ¬ isBlank text = true := by
    intro hb
    cases h.symm.trans (scan_of_isBlank hb)
  rw [compile, if_neg hblank, h]
  rfl

/-- A text that is scanned and is not blank stands for what its tokens stand for. -/
theorem compile_of_scan_eq_ok {text : String} {ts : List Token} (hs : Token.scan text = .ok ts)
    (hblank : ¬ isBlank text = true) : compile text = ofTokens ts := by
  rw [compile, if_neg hblank, hs]
  rfl

/-- White space alone has no brackets. -/
theorem pairsUp_of_isBlank {text : String} (h : isBlank text = true) : PairsUp text := by
  rw [PairsUp, ← balanced_of_scan (scan_of_isBlank h),
    balanced_iff_openAfter Token.closes_of_opens]
  rfl

/-- Brackets are checked before anything is assembled. -/
theorem compile_of_not_pairsUp {text : String} {ts : List Token} (hs : Token.scan text = .ok ts)
    (h : ¬ PairsUp text) : compile text = .error .mismatchedBrackets := by
  rw [compile_of_scan_eq_ok hs fun hb => h (pairsUp_of_isBlank hb)]
  obtain ⟨p, -, hb⟩ | ⟨hp, -⟩ := reversePolish_cases ts
  · exact absurd ((balanced_of_scan hs).1 hb) h
  · rw [ofTokens, hp]
    rfl

/-- Where brackets pair up, the tokens are brought into an order. It has no brackets, and it is
empty exactly if the text is bare. -/
theorem exists_reversePolish {text : String} {ts : List Token} (hs : Token.scan text = .ok ts)
    (h : PairsUp text) : ∃ p, reversePolish ts = .ok p ∧ (∀ t ∈ p, t.isBracket = false) ∧
      (p = [] ↔ ∀ c ∈ text.toList, Text.IsBare c) := by
  obtain ⟨p, hp⟩ := exists_reversePolish_iff.2 ((balanced_of_scan hs).2 h)
  refine ⟨p, hp, isBracket_of_mem_reversePolish hp, ?_⟩
  rw [← forall_isBracket_iff hs, ← List.length_eq_zero_iff,
    (reversePolish_eq_ok_iff.1 hp).perm.length_eq, List.length_eq_zero_iff, List.filter_eq_nil_iff]
  simp

/-- Of white space and brackets nothing can be assembled. -/
theorem compile_of_isBare {text : String}
    (hblank : ∃ c ∈ text.toList, Text.isWhiteSpace c = false) (h : PairsUp text)
    (hbare : ∀ c ∈ text.toList, Text.IsBare c) :
    compile text = .error (.malformed .empty) := by
  obtain ⟨ts, hs, -⟩ := scan_of_isBare hbare
  obtain ⟨p, hp, -, hnil⟩ := exists_reversePolish hs h
  obtain ⟨c, hc, hw⟩ := hblank
  have hb : ¬ isBlank text = true := fun hb =>
    Bool.false_ne_true (hw.symm.trans (isBlank_iff.1 hb c hc))
  rw [compile_of_scan_eq_ok hs hb, ofTokens, hp, hnil.2 hbare]
  rfl

/-- Where there is something to assemble, there is a formula or a fault of assembly. -/
theorem compile_of_not_isBare {text : String} {ts : List Token} (hs : Token.scan text = .ok ts)
    (h : PairsUp text) (hbare : ∃ c ∈ text.toList, ¬ Text.IsBare c) :
    (∃ f, compile text = .ok f) ∨ ∃ e, compile text = .error e ∧ e.isOfAssembly = true := by
  obtain ⟨p, hp, hbrackets, hnil⟩ := exists_reversePolish hs h
  obtain ⟨c, hc, hn⟩ := hbare
  have hb : ¬ isBlank text = true := fun hb => hn (.inl (isBlank_iff.1 hb c hc))
  have hcompile : compile text = ofReversePolish p := by
    rw [compile_of_scan_eq_ok hs hb, ofTokens, hp]
    rfl
  rw [hcompile]
  exact ofReversePolish_cases (fun he => hn (hnil.1 he c hc)) hbrackets

/-- What may come of a text, and when. -/
inductive Verdict (text : String) : Except Fault Formula → Prop where
  /-- There is nothing but white space. -/
  | blank : (∀ c ∈ text.toList, Text.isWhiteSpace c = true) →
      Verdict text (.error (.malformed .blank))
  /-- The text cannot be scanned. -/
  | unscanned {e : Fault} : Token.scan text = .error e → e.isOfScan = true →
      Verdict text (.error e)
  /-- The brackets do not pair up. -/
  | unpaired {ts : List Token} : Token.scan text = .ok ts → ¬ PairsUp text →
      Verdict text (.error .mismatchedBrackets)
  /-- There is nothing but white space and brackets. -/
  | bare : (∃ c ∈ text.toList, Text.isWhiteSpace c = false) → PairsUp text →
      (∀ c ∈ text.toList, Text.IsBare c) → Verdict text (.error (.malformed .empty))
  /-- A formula is assembled. -/
  | assembled {ts : List Token} (f : Formula) : Token.scan text = .ok ts → PairsUp text →
      (∃ c ∈ text.toList, ¬ Text.IsBare c) → Verdict text (.ok f)
  /-- Assembly fails. -/
  | refused {ts : List Token} {e : Fault} : Token.scan text = .ok ts → PairsUp text →
      (∃ c ∈ text.toList, ¬ Text.IsBare c) → e.isOfAssembly = true → Verdict text (.error e)

theorem verdict (text : String) : Verdict text (compile text) := by
  by_cases hblank : ∀ c ∈ text.toList, Text.isWhiteSpace c = true
  · rw [compile_of_blank hblank]
    exact .blank hblank
  cases hs : Token.scan text with
  | error e =>
    rw [compile_of_scan_eq_error hs]
    exact .unscanned hs (isOfScan_of_scan hs)
  | ok ts =>
    by_cases hp : PairsUp text
    · by_cases hbare : ∀ c ∈ text.toList, Text.IsBare c
      · have hsome : ∃ c ∈ text.toList, Text.isWhiteSpace c = false := by simpa using hblank
        rw [compile_of_isBare hsome hp hbare]
        exact .bare hsome hp hbare
      · have hsome : ∃ c ∈ text.toList, ¬ Text.IsBare c := by simpa using hbare
        obtain ⟨f, hf⟩ | ⟨e, hf, he⟩ := compile_of_not_isBare hs hp hsome
        · rw [hf]
          exact .assembled f hs hp hsome
        · rw [hf]
          exact .refused hs hp hsome he
    · rw [compile_of_not_pairsUp hs hp]
      exact .unpaired hs hp

/-! ### One condition for each class of outcomes -/

theorem compile_eq_blank_iff {text : String} :
    compile text = .error (.malformed .blank) ↔
      ∀ c ∈ text.toList, Text.isWhiteSpace c = true := by
  refine ⟨fun h => ?_, compile_of_blank⟩
  cases h ▸ verdict text with
  | blank hb => exact hb
  | unscanned _ he | refused _ _ _ he => cases he

theorem compile_eq_fault_of_scan_iff {text : String} {e : Fault} :
    compile text = .error e ∧ e.isOfScan = true ↔ Token.scan text = .error e := by
  refine ⟨fun ⟨h, he⟩ => ?_, fun hs => ⟨compile_of_scan_eq_error hs, isOfScan_of_scan hs⟩⟩
  cases h ▸ verdict text with
  | unscanned hs _ => exact hs
  | blank | unpaired | bare => cases he
  | refused _ _ _ ha =>
    obtain ⟨op, rfl⟩ | ⟨s, rfl⟩ | rfl := Fault.isOfAssembly_iff.1 ha
    all_goals cases he

theorem compile_eq_mismatchedBrackets_iff {text : String} :
    compile text = .error .mismatchedBrackets ↔
      (∃ ts, Token.scan text = .ok ts) ∧ ¬ PairsUp text := by
  refine ⟨fun h => ?_, fun ⟨⟨ts, hs⟩, hp⟩ => compile_of_not_pairsUp hs hp⟩
  cases h ▸ verdict text with
  | unpaired hs hp => exact ⟨⟨_, hs⟩, hp⟩
  | unscanned _ he | refused _ _ _ he => cases he

theorem compile_eq_empty_iff {text : String} :
    compile text = .error (.malformed .empty) ↔
      (∃ c ∈ text.toList, Text.isWhiteSpace c = false) ∧ PairsUp text ∧
        ∀ c ∈ text.toList, Text.IsBare c := by
  refine ⟨fun h => ?_, fun ⟨hblank, hp, hbare⟩ => compile_of_isBare hblank hp hbare⟩
  cases h ▸ verdict text with
  | bare hblank hp hbare => exact ⟨hblank, hp, hbare⟩
  | unscanned _ he | refused _ _ _ he => cases he

theorem compile_assembled_iff {text : String} :
    ((∃ f, compile text = .ok f) ∨ ∃ e, compile text = .error e ∧ e.isOfAssembly = true) ↔
      (∃ ts, Token.scan text = .ok ts) ∧ PairsUp text ∧
        ∃ c ∈ text.toList, ¬ Text.IsBare c := by
  refine ⟨fun h => ?_, fun ⟨⟨ts, hs⟩, hp, hbare⟩ => compile_of_not_isBare hs hp hbare⟩
  obtain ⟨f, hf⟩ | ⟨e, hf, he⟩ := h
  · cases hf ▸ verdict text with
    | assembled _ hs hp hbare => exact ⟨⟨_, hs⟩, hp, hbare⟩
  · cases hf ▸ verdict text with
    | refused hs hp hbare _ => exact ⟨⟨_, hs⟩, hp, hbare⟩
    | blank | unpaired | bare => cases he
    | unscanned _ hs =>
      obtain ⟨op, rfl⟩ | ⟨s, rfl⟩ | rfl := Fault.isOfAssembly_iff.1 he
      all_goals cases hs

/-- **The outcome of a text is decided by the text itself.** It is refused as blank exactly if there
is nothing but white space; with a fault of the scan exactly if the scan has that fault; for its
brackets exactly if it can be scanned and they do not pair up; and as empty exactly if they do and
there is nothing but white space and brackets, though not white space alone. In all other cases, and
only in these, there is a formula or one of three faults of assembly. The remaining faults never
arise. Each of these faults has a wording of its own, by which it is told from all others. -/
theorem compile_outcome (text : String) :
    (compile text = .error (.malformed .blank) ↔
      ∀ c ∈ text.toList, Text.isWhiteSpace c = true) ∧
    (∀ e, compile text = .error e ∧ e.isOfScan = true ↔ Token.scan text = .error e) ∧
    (compile text = .error .mismatchedBrackets ↔
      (∃ ts, Token.scan text = .ok ts) ∧ ¬ Balanced (· == '(') (· == ')') text.toList) ∧
    (compile text = .error (.malformed .empty) ↔
      (∃ c ∈ text.toList, Text.isWhiteSpace c = false) ∧
      Balanced (· == '(') (· == ')') text.toList ∧
      ∀ c ∈ text.toList, Text.isWhiteSpace c = true ∨ c = '(' ∨ c = ')') ∧
    ((∃ f, compile text = .ok f) ∨ (∃ op, compile text = .error (.malformed (.missingOperand op))) ∨
        (∃ s, compile text = .error (.malformed (.unreadable s))) ∨
        compile text = .error (.malformed .surplusOperands) ↔
      (∃ ts, Token.scan text = .ok ts) ∧ Balanced (· == '(') (· == ')') text.toList ∧
      ∃ c ∈ text.toList, ¬ (Text.isWhiteSpace c = true ∨ c = '(' ∨ c = ')')) ∧
    (∀ c, compile text ≠ .error (.unbound c)) ∧
    compile text ≠ .error .divisionByZero ∧
    compile text ≠ .error (.malformed .strayBracket) ∧
    (∀ c, compile text ≠ .error (.malformed (.unknownOperator c))) ∧
    Malformation.blank.message = "expression cannot be null or empty" ∧
    (∀ c, (Malformation.invalidCharacter c).message = s!"invalid character '{c}'") ∧
    (∀ run, (Malformation.outOfRange run).message = s!"number '{run}' is out of range") ∧
    Malformation.empty.message = "empty expression" ∧
    (∀ op : Operator, (Malformation.missingOperand op).message
      = s!"insufficient operands for operator '{op.symbol}'") ∧
    (∀ run, (Malformation.unreadable run).message
      = s!"invalid token '{run}', expected a number or a single-letter variable") ∧
    Malformation.surplusOperands.message = "too many operands" ∧
    Malformation.strayBracket.message = "unexpected parenthesis in postfix sequence" ∧
    (∀ c, (Malformation.unknownOperator c).message = s!"unknown operator '{c}'") ∧
    (∀ m m' : Malformation, m.message = m'.message ↔ m = m') ∧
    (∀ m, (Fault.malformed m).message = s!"Malformed expression: {m.message}") ∧
    Fault.mismatchedBrackets.message = "Mismatched parentheses" ∧
    (∀ c, (Fault.unbound c).message = s!"Variable '{c}' not found in provided values") ∧
    Fault.divisionByZero.message = "Division by zero" ∧
    ∀ e e' : Fault, e.message = e'.message ↔ e = e' := by
  refine ⟨compile_eq_blank_iff, fun e => compile_eq_fault_of_scan_iff,
    compile_eq_mismatchedBrackets_iff, compile_eq_empty_iff, ?_, fun c h => ?_, fun h => ?_,
    fun h => ?_, fun c h => ?_, rfl, fun _ => rfl, fun _ => rfl, rfl, fun _ => rfl, fun _ => rfl,
    rfl, rfl, fun _ => rfl, fun _ _ => Malformation.message_inj, fun _ => rfl, rfl, fun _ => rfl,
    rfl, fun _ _ => Fault.message_inj⟩
  · refine Iff.trans (or_congr_right ⟨?_, ?_⟩) compile_assembled_iff
    · rintro (⟨op, h⟩ | ⟨s, h⟩ | h) <;> exact ⟨_, h, rfl⟩
    · rintro ⟨e, h, he⟩
      obtain ⟨op, rfl⟩ | ⟨s, rfl⟩ | rfl := Fault.isOfAssembly_iff.1 he
      · exact .inl ⟨op, h⟩
      · exact .inr (.inl ⟨s, h⟩)
      · exact .inr (.inr h)
  all_goals
    cases h ▸ verdict text with
    | unscanned _ he | refused _ _ _ he => cases he

end Formula

end Formulary
