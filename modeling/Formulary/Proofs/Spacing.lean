import Formulary.Proofs.Scan.PieceByPiece

/-!
# Spacing and unwritten products

White space does nothing but end the run in front of it. So it can be put in wherever that run, if
there is one, ends anyway: at either end of a text, behind a character that ends every run, and in
front of such a character. Between a numeral and a word that touch a product is understood, and it
may as well be written. Neither changes what a text stands for, or what is wrong with it
(`compile_spacing`).
-/

namespace Formulary

/-- Whether a character ends every run in front of it, and has a meaning: white space, an operator
or a bracket. -/
def Text.IsSeparator (c : Char) : Prop :=
  isWhiteSpace c = true ∨ (∃ op : Operator, c = op.symbol) ∨ c = '(' ∨ c = ')'

namespace Scanner

theorem step_of_isSeparator {c : Char} (h : Text.IsSeparator c) :
    ∃ ts, ∀ s : Scanner, s.step c = s.endRun ts .none := by
  rcases h with h | ⟨op, rfl⟩ | rfl | rfl
  · exact ⟨[], fun s => by rw [step, Glyph.of_blank h]⟩
  · exact ⟨[.operator op], fun s => s.step_symbol op⟩
  · exact ⟨[.opening], step_mark (by decide)⟩
  · exact ⟨[.closing], step_mark (by decide)⟩

theorem outcome_append (s : Scanner) (cs ds : List Char) :
    s.outcome (cs ++ ds) = s.feed cs >>= fun t => t.outcome ds := by
  rw [outcome, feed_append, bind_assoc]
  rfl

/-- Behind a separator no run is being gathered. -/
theorem pending_of_feed {s t : Scanner} {cs : List Char} {c : Char} (hc : Text.IsSeparator c)
    (h : s.feed (cs ++ [c]) = .ok t) : t.pending = .none := by
  obtain ⟨ts, hts⟩ := step_of_isSeparator hc
  rw [feed_append, bind_eq_ok_iff] at h
  obtain ⟨u, -, h⟩ := h
  rw [feed_cons, hts, bind_eq_ok_iff] at h
  obtain ⟨v, hv, h⟩ := h
  obtain ⟨us, -, hv⟩ := bind_eq_ok_iff.1 hv
  cases hv
  cases h
  rfl

/-- White space ends the run in front of it, and that is all. -/
theorem outcome_blank {w : List Char} (hne : w ≠ []) (hw : w.all Text.isWhiteSpace = true)
    (s : Scanner) (ds : List Char) :
    s.outcome (w ++ ds) = s.endRun [] .none >>= fun t => t.outcome ds := by
  cases w with
  | nil => exact absurd rfl hne
  | cons c w =>
    rw [List.all_cons, Bool.and_eq_true] at hw
    rw [List.cons_append, outcome_cons, step, Glyph.of_blank hw.1]
    show (s.endRun [] .none >>= _) = _
    rw [endRun]
    cases s.pending.tokens with
    | error e => rfl
    | ok us => exact outcome_append_of_ok (feed_blank hw.2 _) ds

/-- Where the text ends or a separator comes next, the run may as well be ended before. -/
theorem outcome_eq_endRun {ds : List Char} (hd : ∀ d ∈ ds.head?, Text.IsSeparator d)
    (s : Scanner) : s.outcome ds = s.endRun [] .none >>= fun t => t.outcome ds := by
  cases ds with
  | nil =>
    show (s.endRun [] .none).map _ = _
    rw [endRun]
    cases s.pending.tokens with
    | error e => rfl
    | ok us => rfl
  | cons d ds =>
    obtain ⟨ts, hts⟩ := step_of_isSeparator (hd d rfl)
    simp only [outcome_cons, hts]
    rw [endRun_eq s ts, endRun]
    cases s.pending.tokens with
    | error e => rfl
    | ok us =>
      show outcome ⟨ts ++ (us ++ s.found), .none⟩ ds
        = outcome ⟨ts ++ [] ++ ([] ++ us ++ s.found), .none⟩ ds
      rw [List.append_nil, List.nil_append]

/-- White space can be put in where no run is being gathered, at the end of a text, and in front of
a separator. -/
theorem outcome_insert_blank {w ds : List Char} (hw : w.all Text.isWhiteSpace = true) {s : Scanner}
    (h : s.pending = .none ∨ ∀ d ∈ ds.head?, Text.IsSeparator d) :
    s.outcome (w ++ ds) = s.outcome ds := by
  rcases h with h | h
  · obtain ⟨found, pending⟩ := s
    obtain rfl : pending = .none := h
    exact outcome_append_of_ok (feed_blank hw found) ds
  · by_cases hne : w = []
    · rw [hne, List.nil_append]
    · rw [outcome_blank hne hw, outcome_eq_endRun h]

end Scanner

/-- A text in two parts is scanned with white space between the parts as without. -/
theorem scan_insert_blank {a w b : String} (hw : w.toList.all Text.isWhiteSpace = true)
    (h : a = "" ∨ b = "" ∨ (∃ c ∈ a.toList.getLast?, Text.IsSeparator c)
      ∨ ∃ d ∈ b.toList.head?, Text.IsSeparator d) :
    Token.scan (a ++ w ++ b) = Token.scan (a ++ b) := by
  show Scanner.start.outcome _ = Scanner.start.outcome _
  rw [String.toList_append, String.toList_append, String.toList_append, List.append_assoc,
    Scanner.outcome_append, Scanner.outcome_append]
  cases hs : Scanner.start.feed a.toList with
  | error e => rfl
  | ok s =>
    refine Scanner.outcome_insert_blank hw ?_
    rcases h with rfl | rfl | ⟨c, hc, hsep⟩ | ⟨d, hd, hsep⟩
    · cases hs
      exact .inl rfl
    · exact .inr fun d hd => absurd hd (by simp)
    · obtain ⟨as, ha⟩ := List.getLast?_eq_some_iff.1 hc
      exact .inl (Scanner.pending_of_feed hsep (ha ▸ hs))
    · refine .inr fun d' hd' => ?_
      obtain rfl : d = d' := Option.some.inj (hd.symm.trans hd')
      exact hsep

namespace Formula

theorem compile_congr {t u : String} (hblank : isBlank t = isBlank u)
    (hscan : Token.scan t = Token.scan u) : compile t = compile u := by
  rw [compile, compile, hblank, hscan]

theorem compile_insert_blank {a w b : String} (hw : ∀ c ∈ w.toList, Text.isWhiteSpace c = true)
    (h : a = "" ∨ b = "" ∨ (∃ c ∈ a.toList.getLast?, Text.IsSeparator c)
      ∨ ∃ d ∈ b.toList.head?, Text.IsSeparator d) :
    compile (a ++ w ++ b) = compile (a ++ b) := by
  have hw : w.toList.all Text.isWhiteSpace = true := List.all_eq_true.2 hw
  refine compile_congr ?_ (scan_insert_blank hw h)
  simp only [isBlank, String.toList_append, List.all_append, hw, Bool.and_true]

theorem compile_insert_multiply {a b : String} {c d : Char} (hc : c ∈ a.toList.getLast?)
    (hd : d ∈ b.toList.head?)
    (h : isNumeralChar c = true ∧ Text.isAlphabetic d = true
      ∨ Text.isAlphabetic c = true ∧ isNumeralChar d = true) :
    compile (a ++ b) = compile (a ++ "*" ++ b) := by
  obtain ⟨as, ha⟩ := List.getLast?_eq_some_iff.1 hc
  obtain ⟨bs, hb⟩ := List.head?_eq_some_iff.1 hd
  have hblank : Text.isWhiteSpace c = false := by
    rcases h with ⟨hc, -⟩ | ⟨hc, -⟩
    · exact Text.isWhiteSpace_of_isSign (Text.isSign_of_isNumeralChar hc)
    · exact Text.isWhiteSpace_of_isAlphabetic hc
  have htouch : a ++ b = .ofList (as ++ c :: d :: bs) := by
    rw [← String.toList_inj]
    simp [ha, hb]
  have hstar : a ++ "*" ++ b = .ofList (as ++ c :: '*' :: d :: bs) := by
    rw [← String.toList_inj]
    simp [ha, hb]
  rw [htouch, hstar]
  refine compile_congr ?_ (scan_junction as bs h)
  simp [isBlank, hblank]

/-- **Spacing and unwritten products.** White space at either end of a text, behind a separator or
in front of one changes nothing, and neither does a `*` between a numeral and a word that touch: the
formula is the same, and so is the fault if there is one. -/
theorem compile_spacing :
    (∀ a w b : String, (∀ c ∈ w.toList, Text.isWhiteSpace c = true) →
      (a = "" ∨ b = "" ∨ (∃ c ∈ a.toList.getLast?, Text.IsSeparator c)
        ∨ ∃ d ∈ b.toList.head?, Text.IsSeparator d) →
      compile (a ++ w ++ b) = compile (a ++ b))
    ∧ ∀ (a b : String) (c d : Char), c ∈ a.toList.getLast? → d ∈ b.toList.head? →
      (isNumeralChar c = true ∧ Text.isAlphabetic d = true
        ∨ Text.isAlphabetic c = true ∧ isNumeralChar d = true) →
      compile (a ++ b) = compile (a ++ "*" ++ b) :=
  ⟨fun _ _ _ hw h => compile_insert_blank hw h,
    fun _ _ _ _ hc hd h => compile_insert_multiply hc hd h⟩

/-- White space in front of an operator, and the product in `2x`. -/
theorem compile_spacing_product :
    (∀ c ∈ " \t".toList, Text.isWhiteSpace c = true) ∧ Text.IsSeparator '+'
      ∧ compile ("2x" ++ " \t" ++ "+y") = compile ("2x" ++ "+y")
      ∧ '2' ∈ "2".toList.getLast? ∧ 'x' ∈ "x+y".toList.head?
      ∧ isNumeralChar '2' = true ∧ Text.isAlphabetic 'x' = true
      ∧ compile ("2" ++ "x+y") = compile ("2" ++ "*" ++ "x+y") := by
  have hw : ∀ c ∈ " \t".toList, Text.isWhiteSpace c = true := List.all_eq_true.1 (by decide)
  have hplus : Text.IsSeparator '+' := .inr (.inl ⟨.add, rfl⟩)
  have hx : Text.isAlphabetic 'x' = true := by decide +kernel
  refine ⟨hw, hplus, ?_, rfl, rfl, by decide, hx, ?_⟩
  · exact compile_spacing.1 _ _ _ hw (.inr (.inr (.inr ⟨'+', rfl, hplus⟩)))
  · exact compile_spacing.2 _ _ '2' 'x' rfl rfl (.inl ⟨by decide, hx⟩)

-- Inside a run white space does make a difference.
example : compile "x y" = .error (.malformed .surplusOperands) ∧
    compile "xy" = .error (.malformed (.unreadable "xy")) := by
  constructor <;> rfl

end Formula

end Formulary
