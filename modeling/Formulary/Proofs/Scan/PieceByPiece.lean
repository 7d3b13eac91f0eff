import Formulary.Proofs.Scan.Cut

/-!
# A scan, piece by piece

A scan gathers runs and reads each of them behind its end, so its tokens and its faults come later
than the characters they are due to. Yet it finds what the pieces of the text say, one after another
(`scan_eq_read`): tokens found before have no influence on what is found (`outcome_behind`), so a
scan goes on behind a piece as it would from the start, except that a run in front of it has still
to be read (`Piece.outcome_pending`).

Only a character without meaning comes before that reading. So a numeral beyond all doubles is
reported if it is the flaw noticed first, and not if such a character stands right behind it.
-/

namespace Formulary

namespace Scanner

/-- What a scan makes of the rest of a text. -/
def outcome (s : Scanner) (cs : List Char) : Except Fault (List Token) := s.feed cs >>= finish

theorem outcome_cons (s : Scanner) (c : Char) (cs : List Char) :
    s.outcome (c :: cs) = s.step c >>= fun t => t.outcome cs := by
  rw [outcome, feed_cons, bind_assoc]
  rfl

theorem outcome_append_of_ok {s t : Scanner} {cs : List Char} (h : s.feed cs = .ok t)
    (ds : List Char) : s.outcome (cs ++ ds) = t.outcome ds := by
  rw [outcome, feed_append_of_ok h]
  rfl

/-! ### Tokens found before -/

/-- The state with some tokens found before. -/
def behind (s : Scanner) (found : List Token) : Scanner := ⟨s.found ++ found, s.pending⟩

theorem endRun_behind (s : Scanner) (found ts : List Token) (next : Run) :
    (s.behind found).endRun ts next = (s.endRun ts next).map fun t => t.behind found := by
  rw [endRun, endRun, behind]
  cases s.pending.tokens with
  | error e => rfl
  | ok us =>
    show Except.ok (Scanner.mk (ts ++ us ++ (s.found ++ found)) next) = _
    rw [← List.append_assoc]
    rfl

theorem step_behind (s : Scanner) (found : List Token) (c : Char) :
    (s.behind found).step c = (s.step c).map fun t => t.behind found := by
  have hpending : (s.behind found).pending = s.pending := rfl
  cases hc : Glyph.of c with
  | sign =>
    obtain ⟨op, rfl⟩ := Glyph.exists_symbol_of_sign hc
    rw [step_symbol, step_symbol]
    exact endRun_behind ..
  | blank | mark t =>
    rw [step, step, hc]
    exact endRun_behind ..
  | numeral =>
    rw [step, step, hc, hpending]
    cases s.pending with
    | none | numeral cs => rfl
    | word cs => exact endRun_behind ..
  | letter =>
    rw [step, step, hc, hpending]
    cases s.pending with
    | none | word cs => rfl
    | numeral cs => exact endRun_behind ..
  | foreign =>
    rw [step, step, hc]
    rfl

/-- Tokens found before have no influence on what is found. -/
theorem outcome_behind (s : Scanner) (found : List Token) (cs : List Char) :
    (s.behind found).outcome cs = (s.outcome cs).map fun ts => found.reverse ++ ts := by
  induction cs generalizing s with
  | nil =>
    show ((s.behind found).endRun [] .none).map _ = ((s.endRun [] .none).map _).map _
    rw [endRun_behind]
    cases s.endRun [] .none with
    | error e => rfl
    | ok t => exact congrArg Except.ok List.reverse_append
  | cons c cs ih =>
    rw [outcome_cons, outcome_cons, step_behind]
    cases s.step c with
    | error e => rfl
    | ok t => exact ih t

/-! ### Runs that end -/

theorem Run.reverse_of_tokens {r : Run} {ts : List Token} (h : r.tokens = .ok ts) :
    ts.reverse = ts := by
  cases r with
  | none | word cs =>
    cases h
    rfl
  | numeral cs =>
    obtain ⟨t, -, rfl⟩ := map_eq_ok_iff.1 h
    rfl

/-- A run that is still being gathered at the end of a text ends there. -/
theorem outcome_nil (r : Run) : outcome ⟨[], r⟩ [] = r.tokens := by
  show (endRun ⟨[], r⟩ [] .none).map _ = _
  rw [endRun]
  cases hr : r.tokens with
  | error e => rfl
  | ok ts =>
    show Except.ok ([] ++ ts ++ []).reverse = _
    simp [Run.reverse_of_tokens hr]

/-- A character that ends the run in front of it leaves its own tokens behind those of the run. -/
theorem outcome_of_endRun {c : Char} {ts : List Token}
    (hc : ∀ s : Scanner, s.step c = s.endRun ts .none) (r : Run) (cs : List Char) :
    outcome ⟨[], r⟩ (c :: cs)
      = r.tokens >>= fun us => (start.outcome cs).map fun vs => us ++ ts.reverse ++ vs := by
  rw [outcome_cons, hc, endRun]
  cases hr : r.tokens with
  | error e => rfl
  | ok us =>
    show outcome ⟨ts ++ us ++ [], .none⟩ cs = (start.outcome cs).map _
    have hstate : Scanner.mk (ts ++ us ++ []) .none = start.behind (ts ++ us) := by
      simp [start, behind]
    rw [hstate, outcome_behind, List.reverse_append, Run.reverse_of_tokens hr]

theorem outcome_foreign {c : Char} (hc : Glyph.of c = .foreign) (s : Scanner) (cs : List Char) :
    s.outcome (c :: cs) = .error (.malformed (.invalidCharacter c)) := by
  rw [outcome_cons, step, hc]
  rfl

/-- At a junction a run ends, with a product behind it. -/
theorem outcome_junction {r : Run} {cs : List Char} {d : Char}
    (h : r = .numeral cs ∧ Glyph.of d = .letter ∨ r = .word cs ∧ Glyph.of d = .numeral)
    (ds : List Char) :
    outcome ⟨[], r⟩ (d :: ds) = r.tokens >>= fun us =>
      (start.outcome (d :: ds)).map fun vs => us ++ [.operator .multiply] ++ vs := by
  have hstar : outcome ⟨[], r⟩ (d :: ds) = outcome ⟨[], r⟩ ('*' :: d :: ds) := by
    rw [outcome_cons, outcome_cons, step_junction h, bind_assoc]
    simp only [outcome_cons]
  rw [hstar]
  exact outcome_of_endRun (fun s => s.step_symbol .multiply) r (d :: ds)

end Scanner

/-! ### Signs -/

namespace Piece

/-- A sign without a meaning is no white space, no operator and no bracket. -/
theorem glyph_eq_foreign_iff {c : Char} (h : (sign c).IsPure) :
    Glyph.of c = .foreign ↔ Text.isWhiteSpace c = false ∧ Token.ofSign? c = none := by
  constructor
  · intro hc
    constructor
    · rw [Bool.eq_false_iff]
      intro hw
      cases (Glyph.of_blank hw).symm.trans hc
    · cases ht : Token.ofSign? c with
      | none => rfl
      | some t =>
        obtain ⟨rfl, -⟩ | ⟨rfl, -⟩ | ⟨op, rfl, -⟩ := Token.ofSign?_eq_some_iff.1 ht
        · exact absurd hc (by decide)
        · exact absurd hc (by decide)
        · cases (Glyph.of_symbol op).symm.trans hc
  · rintro ⟨hw, ht⟩
    have hnot : ∀ t, Token.ofSign? c ≠ some t := fun t => by simp [ht]
    have h1 : c ≠ '(' := fun h => hnot _ (Token.ofSign?_eq_some_iff.2 (.inl ⟨h, rfl⟩))
    have h2 : c ≠ ')' := fun h => hnot _ (Token.ofSign?_eq_some_iff.2 (.inr (.inl ⟨h, rfl⟩)))
    have hop : c ∉ ['+', '-', '*', '/', '^'] := by
      rw [Operator.mem_signs_iff]
      rintro ⟨op, h⟩
      exact hnot _ (Token.ofSign?_eq_some_iff.2 (.inr (.inr ⟨op, h, rfl⟩)))
    rw [Glyph.of, hw, if_neg Bool.false_ne_true, if_neg h1, if_neg h2, if_neg hop, h.1, h.2]
    rfl

/-- What is wrong with a sign is that it has no meaning, which is noticed where it stands. -/
theorem flaw?_sign {c : Char} (h : (sign c).IsPure) (i : Nat) :
    (sign c).flaw? i = if Glyph.of c = .foreign then some ⟨i, .invalidCharacter c⟩ else none := by
  rw [flaw?, ← ite_not]
  refine if_congr ?_ rfl rfl
  rw [glyph_eq_foreign_iff h, not_or, Bool.not_eq_true, Option.not_isSome_iff_eq_none]

/-- A sign with a meaning ends the run in front of it, and has its token if it is no white space. -/
theorem step_sign {c : Char} (h : (sign c).IsPure) (hc : Glyph.of c ≠ .foreign) (s : Scanner) :
    s.step c = s.endRun (sign c).tokens .none := by
  rw [tokens]
  cases ht : Token.ofSign? c with
  | none =>
    have hw : Text.isWhiteSpace c = true :=
      Bool.not_eq_false _ ▸ fun hw => hc ((glyph_eq_foreign_iff h).2 ⟨hw, ht⟩)
    rw [Scanner.step, Glyph.of_blank hw]
    rfl
  | some t =>
    obtain ⟨rfl, rfl⟩ | ⟨rfl, rfl⟩ | ⟨op, rfl, rfl⟩ := Token.ofSign?_eq_some_iff.1 ht
    · exact Scanner.step_mark (by decide) s
    · exact Scanner.step_mark (by decide) s
    · exact s.step_symbol op

theorem reverse_tokens_sign (c : Char) : (sign c).tokens.reverse = (sign c).tokens := by
  rw [tokens]
  cases Token.ofSign? c <;> rfl

/-- A sign with a meaning leaves its own tokens behind those of the run in front of it. -/
theorem outcome_sign {c : Char} (h : (sign c).IsPure) (hc : Glyph.of c ≠ .foreign)
    (r : Scanner.Run) (cs : List Char) :
    Scanner.outcome ⟨[], r⟩ (c :: cs) = r.tokens >>= fun us =>
      (Scanner.start.outcome cs).map fun vs => us ++ (sign c).tokens ++ vs := by
  rw [Scanner.outcome_of_endRun (step_sign h hc), reverse_tokens_sign]

theorem outcome_start_sign {c : Char} (h : (sign c).IsPure) (hc : Glyph.of c ≠ .foreign)
    (cs : List Char) :
    Scanner.start.outcome (c :: cs)
      = (Scanner.start.outcome cs).map fun vs => (sign c).tokens ++ vs :=
  outcome_sign h hc .none cs

/-! ### Runs -/

/-- The run that is being gathered behind a piece. -/
def pending : Piece → Scanner.Run
  | numeral run => .numeral run.reverse
  | word run => .word run.reverse
  | sign _ => .none

/-- A run is read, or it is a numeral beyond all doubles. -/
theorem tokens_pending {p : Piece} (hrun : ∀ c, p ≠ sign c) (i : Nat) :
    p.pending.tokens = match p.flaw? i with
      | none => .ok p.tokens
      | some v => .error (.malformed v.cause) := by
  cases p with
  | sign c => exact absurd rfl (hrun c)
  | numeral run =>
    rw [pending, Scanner.Run.tokens, List.reverse_reverse, Token.ofNumeral, Numeral.decimal?, flaw?,
      tokens]
    by_cases hw : Numeral.isWellFormed run = true
    · cases hx : (Numeral.value run).toFloat? with
      | none | some x => simp [hw, hx, Except.map]
    · simp [hw, Except.map]
  | word run =>
    rw [pending, Scanner.Run.tokens, List.reverse_reverse]
    rcases run with - | ⟨c, - | ⟨d, run⟩⟩ <;> rfl

/-- A whole run is gathered, whatever has been found before. -/
theorem feed_chars {p : Piece} (hrun : ∀ c, p ≠ sign c) (hp : p.IsPure) (found : List Token) :
    Scanner.feed ⟨found, .none⟩ p.chars = .ok ⟨found, p.pending⟩ := by
  cases p with
  | sign c => exact absurd rfl (hrun c)
  | numeral run => exact Scanner.feed_whole_numeral hp.2 hp.1 found
  | word run =>
    obtain ⟨c, run, rfl⟩ := List.exists_cons_of_ne_nil hp.1
    have hall := List.forall_mem_cons.1 hp.2
    rw [chars, Scanner.feed_cons, Scanner.step, Glyph.of_letter hall.1, pending, List.reverse_cons]
    exact Scanner.feed_word hall.2 found [c]

/-- A scan gathers a whole run. -/
theorem outcome_run {p : Piece} (hrun : ∀ c, p ≠ sign c) (hp : p.IsPure) (cs : List Char) :
    Scanner.start.outcome (p.chars ++ cs) = Scanner.outcome ⟨[], p.pending⟩ cs :=
  Scanner.outcome_append_of_ok (feed_chars hrun hp []) cs

/-- A character without meaning at the head of pieces is what is reported. -/
theorem outcome_of_foreign {ps : List Piece} {c : Char} (hps : sign c ∈ ps.head?)
    (hc : Glyph.of c = .foreign) (s : Scanner) :
    s.outcome (ps.flatMap chars) = .error (.malformed (.invalidCharacter c)) := by
  obtain ⟨ps, rfl⟩ := List.head?_eq_some_iff.1 hps
  exact Scanner.outcome_foreign hc s _

/-- Behind a whole run, a scan reads it and goes on as from the start, with a product in between if
there is a junction. Only a character without meaning comes before the reading. -/
theorem outcome_pending {p : Piece} (hrun : ∀ c, p ≠ sign c) {ps : List Piece}
    (hpure : ∀ q ∈ ps, q.IsPure) (hjoins : ∀ q ∈ ps.head?, p.joins q = false)
    (hsign : ∀ c, sign c ∈ ps.head? → Glyph.of c ≠ .foreign) :
    Scanner.outcome ⟨[], p.pending⟩ (ps.flatMap chars) = p.pending.tokens >>= fun us =>
      (Scanner.start.outcome (ps.flatMap chars)).map fun vs => us ++ p.link ps ++ vs := by
  -- what ends the run: the end of the text, a sign, or a run of the other kind at a junction
  rcases ps with - | ⟨q, ps⟩
  · rw [List.flatMap_nil, Scanner.outcome_nil, Scanner.start, Scanner.outcome_nil]
    cases p.pending.tokens with
    | error e => rfl
    | ok us => cases p <;> simp [link, Scanner.Run.tokens, Except.map, bind, Except.bind]
  · rw [List.forall_mem_cons] at hpure
    have hj := hjoins q rfl
    rw [List.flatMap_cons]
    cases q with
    | sign c =>
      have hc := hsign c rfl
      have hlink : p.link (sign c :: ps) = [] := by cases p <;> rfl
      show Scanner.outcome _ (c :: ps.flatMap chars) = _ >>= fun us =>
        (Scanner.start.outcome (c :: ps.flatMap chars)).map _
      rw [outcome_sign hpure.1 hc, outcome_start_sign hpure.1 hc, hlink]
      cases Scanner.start.outcome (ps.flatMap chars) with
      | error e => rfl
      | ok vs => simp [Except.map]
    | numeral run =>
      obtain ⟨d, run, rfl⟩ := List.exists_cons_of_ne_nil hpure.1.1
      have hd := Glyph.of_numeral (hpure.1.2 d List.mem_cons_self)
      cases p with
      | sign c => exact absurd rfl (hrun c)
      | numeral run' => cases hj
      | word run' => exact Scanner.outcome_junction (.inr ⟨rfl, hd⟩) _
    | word run =>
      obtain ⟨d, run, rfl⟩ := List.exists_cons_of_ne_nil hpure.1.1
      have hd := Glyph.of_letter (hpure.1.2 d List.mem_cons_self)
      cases p with
      | sign c => exact absurd rfl (hrun c)
      | numeral run' => exact Scanner.outcome_junction (.inl ⟨rfl, hd⟩) _
      | word run' => cases hj

/-- A piece without a flaw leaves its tokens. -/
theorem outcome_of_flaw?_eq_none {p : Piece} {i : Nat} (hflaw : p.flaw? i = none) {ps : List Piece}
    (hpure : ∀ q ∈ p :: ps, q.IsPure) (hjoins : ∀ q ∈ ps.head?, p.joins q = false) :
    Scanner.start.outcome ((p :: ps).flatMap chars)
      = (Scanner.start.outcome (ps.flatMap chars)).map fun vs => p.tokens ++ p.link ps ++ vs := by
  obtain ⟨hp, hps⟩ := List.forall_mem_cons.1 hpure
  rw [List.flatMap_cons]
  by_cases hrun : ∀ c, p ≠ sign c
  · rw [outcome_run hrun hp]
    by_cases hsign : ∀ c, sign c ∈ ps.head? → Glyph.of c ≠ .foreign
    · rw [outcome_pending hrun hps hjoins hsign, tokens_pending hrun i, hflaw]
      rfl
    · push Not at hsign
      obtain ⟨c, hc, hforeign⟩ := hsign
      rw [outcome_of_foreign hc hforeign, outcome_of_foreign hc hforeign]
      rfl
  · push Not at hrun
    obtain ⟨c, rfl⟩ := hrun
    have hc : Glyph.of c ≠ .foreign := by
      intro hc
      rw [flaw?_sign hp, if_pos hc] at hflaw
      cases hflaw
    show Scanner.start.outcome (c :: ps.flatMap chars) = _
    rw [outcome_start_sign hp hc, show (sign c).link ps = [] from rfl, List.append_nil]

/-! ### Where flaws are noticed -/

/-- A flaw of a run is noticed behind the run, and a character without meaning where it stands. -/
theorem flaw?_cases {p : Piece} (hp : p.IsPure) {i : Nat} {v : Flaw} (h : p.flaw? i = some v) :
    (∀ c, p ≠ sign c) ∧ v.isForeign = false ∧ v.position = i + p.chars.length ∨
      ∃ c, p = sign c ∧ Glyph.of c = .foreign ∧ v = ⟨i, .invalidCharacter c⟩ := by
  cases p with
  | word run => cases h
  | numeral run =>
    rw [flaw?] at h
    split_ifs at h
    cases h
    exact .inl ⟨fun c => Piece.noConfusion, rfl, rfl⟩
  | sign c =>
    rw [flaw?_sign hp] at h
    split_ifs at h with hc
    cases h
    exact .inr ⟨c, rfl, hc, rfl⟩

/-- A character without meaning at the head of pieces is a flaw where they begin. -/
theorem mem_flaws_of_foreign {ps : List Piece} (hpure : ∀ p ∈ ps, p.IsPure) {c : Char}
    (hps : sign c ∈ ps.head?) (hc : Glyph.of c = .foreign) (i : Nat) :
    ⟨i, .invalidCharacter c⟩ ∈ flaws i ps := by
  obtain ⟨ps, rfl⟩ := List.head?_eq_some_iff.1 hps
  rw [flaws, flaw?_sign (hpure _ List.mem_cons_self), if_pos hc]
  exact List.mem_append_left _ (List.mem_singleton.2 rfl)

theorem length_chars_pos {p : Piece} (hp : p.IsPure) : 0 < p.chars.length := by
  cases p with
  | sign c => exact Nat.zero_lt_one
  | numeral run | word run => exact List.length_pos_iff.2 hp.1

/-- No flaw is noticed in front of the pieces. -/
theorem le_position {ps : List Piece} (hpure : ∀ p ∈ ps, p.IsPure) {i : Nat} {v : Flaw}
    (h : v ∈ flaws i ps) : i ≤ v.position := by
  induction ps generalizing i with
  | nil => exact absurd h List.not_mem_nil
  | cons p ps ih =>
    rw [List.forall_mem_cons] at hpure
    rcases List.mem_append.1 h with h | h
    · obtain ⟨-, -, hpos⟩ | ⟨c, -, -, rfl⟩ := flaw?_cases hpure.1 (Option.mem_toList.1 h)
      · omega
      · exact Nat.le_refl i
    · have := ih hpure.2 h
      omega

/-- Only a character without meaning is noticed where pieces begin. -/
theorem lt_position {ps : List Piece} (hpure : ∀ p ∈ ps, p.IsPure)
    (hsign : ∀ c, sign c ∈ ps.head? → Glyph.of c ≠ .foreign) {i : Nat} {v : Flaw}
    (h : v ∈ flaws i ps) : i < v.position := by
  rcases ps with - | ⟨p, ps⟩
  · exact absurd h List.not_mem_nil
  · rw [List.forall_mem_cons] at hpure
    have hlen := length_chars_pos hpure.1
    rcases List.mem_append.1 h with h | h
    · obtain ⟨-, -, hpos⟩ | ⟨c, rfl, hc, -⟩ := flaw?_cases hpure.1 (Option.mem_toList.1 h)
      · omega
      · exact absurd hc (hsign c rfl)
    · have := le_position hpure.2 h
      omega

end Piece

/-- If all others are noticed later, a flaw is the first one. -/
theorem Flaw.IsFirst.eq_of_lt {v w : Flaw} {vs : List Flaw} (h : v.IsFirst (w :: vs))
    (hlt : ∀ u ∈ vs, w.position < u.position) : v = w := by
  rcases List.mem_cons.1 h.1 with hv | hv
  · exact hv
  · have hlater := h.2 w List.mem_cons_self
    have hearlier := hlt v hv
    unfold Flaw.NoLater at hlater
    omega

/-- If another one is noticed before it, a flaw is not the first one. -/
theorem Flaw.IsFirst.of_cons {u v w : Flaw} {vs : List Flaw} (h : v.IsFirst (w :: vs))
    (hu : u ∈ vs) (hwu : ¬ w.NoLater u) : v.IsFirst vs := by
  have hall := List.forall_mem_cons.1 h.2
  rcases List.mem_cons.1 h.1 with rfl | hv
  · exact absurd (hall.2 u hu) hwu
  · exact ⟨hv, hall.2⟩

/-! ### Whole texts -/

/-- A scan of pieces finds what the pieces say, or stops at the flaw that is noticed first. -/
theorem Piece.outcome_flatMap_chars {ps : List Piece} (hpure : ∀ p ∈ ps, p.IsPure)
    (hmax : ps.IsChain fun p q => p.joins q = false) (i : Nat) :
    (flaws i ps = [] → Scanner.start.outcome (ps.flatMap chars) = .ok (read ps)) ∧
      ∀ v : Flaw, v.IsFirst (flaws i ps) →
        Scanner.start.outcome (ps.flatMap chars) = .error (.malformed v.cause) := by
  induction ps generalizing i with
  | nil => exact ⟨fun _ => rfl, fun v hv => absurd hv.1 List.not_mem_nil⟩
  | cons p ps ih =>
    obtain ⟨hp, hps⟩ := List.forall_mem_cons.1 hpure
    rw [List.isChain_cons] at hmax
    obtain ⟨ihread, ihfirst⟩ := ih hps hmax.2 (i + p.chars.length)
    rw [flaws]
    cases hflaw : p.flaw? i with
    | none =>
      rw [outcome_of_flaw?_eq_none hflaw hpure hmax.1, Option.toList_none, List.nil_append]
      constructor
      · intro h
        rw [ihread h]
        rfl
      · intro v hv
        rw [ihfirst v hv]
        rfl
    | some w =>
      refine ⟨fun h => absurd h (List.cons_ne_nil _ _), ?_⟩
      intro v hv
      obtain ⟨hrun, hw, hpos⟩ | ⟨c, rfl, hc, rfl⟩ := flaw?_cases hp hflaw
      · rw [List.flatMap_cons, outcome_run hrun hp]
        -- the run is read, unless the scan stops right behind it before the reading
        by_cases hsign : ∀ c, sign c ∈ ps.head? → Glyph.of c ≠ .foreign
        · have hlt : ∀ u ∈ flaws (i + p.chars.length) ps, w.position < u.position := by
            intro u hu
            rw [hpos]
            exact lt_position hps hsign hu
          rw [hv.eq_of_lt hlt, outcome_pending hrun hps hmax.1 hsign, tokens_pending hrun i, hflaw]
          rfl
        · push Not at hsign
          obtain ⟨c, hhead, hc⟩ := hsign
          have hu := mem_flaws_of_foreign hps hhead hc (i + p.chars.length)
          have hwu : ¬ w.NoLater ⟨i + p.chars.length, .invalidCharacter c⟩ := by
            rintro (hlt | ⟨-, hforeign⟩)
            · exact absurd hpos hlt.ne
            · exact Bool.false_ne_true (hw.symm.trans (hforeign rfl))
          have hrest := ihfirst v (hv.of_cons hu hwu)
          rw [outcome_of_foreign hhead hc] at hrest ⊢
          exact hrest
      · have hlt : ∀ u ∈ flaws (i + (sign c).chars.length) ps, i < u.position :=
          fun u hu => le_position hps hu
        rw [hv.eq_of_lt hlt]
        exact outcome_of_foreign rfl hc _

/-- Which tokens a scan finds, and with which fault it fails. -/
theorem Piece.scan_iff (text : String) :
    (∀ ts, Token.scan text = .ok ts ↔
      flaws 0 (cut text.toList) = [] ∧ ts = read (cut text.toList)) ∧
    ∀ e, Token.scan text = .error e ↔
      ∃ v, Flaw.IsFirst v (flaws 0 (cut text.toList)) ∧ e = .malformed v.cause := by
  have hcut := isCut_cut text.toList
  have hscan : Token.scan text = Scanner.start.outcome ((cut text.toList).flatMap chars) := by
    rw [hcut.chars]
    rfl
  obtain ⟨hread, hfirst⟩ := outcome_flatMap_chars hcut.pure hcut.maximal 0
  rw [hscan]
  by_cases hflaws : flaws 0 (cut text.toList) = []
  · rw [hread hflaws, hflaws]
    simp [Flaw.IsFirst, eq_comm]
  · obtain ⟨v, hv⟩ := Flaw.exists_isFirst hflaws
    rw [hfirst v hv]
    refine ⟨by simp [hflaws], fun e => ⟨?_, ?_⟩⟩
    · intro he
      cases he
      exact ⟨v, hv, rfl⟩
    · rintro ⟨w, hw, rfl⟩
      rw [← hfirst v hv, hfirst w hw]

/-- The tokens of a text are those of its pieces, none of which has a flaw. -/
theorem Piece.read_of_scan {text : String} {ts : List Token} (h : Token.scan text = .ok ts) :
    flaws 0 (cut text.toList) = [] ∧ ts = read (cut text.toList) :=
  ((scan_iff text).1 ts).1 h

/-- **A scan finds what the pieces of a text say.** There is one way to cut a text. If none of the
pieces has a flaw, the tokens are those of the pieces, with the products that are understood between
them. Else the scan fails with what is wrong at the flaw that is noticed first, in words that name
the character or the numeral. -/
theorem scan_eq_read (text : String) :
    (∀ ps, IsCut text.toList ps ↔ ps = cut text.toList) ∧
    (∀ ts, Token.scan text = .ok ts ↔
      Piece.flaws 0 (cut text.toList) = [] ∧ ts = Piece.read (cut text.toList)) ∧
    (∀ e, Token.scan text = .error e ↔
      ∃ v, Flaw.IsFirst v (Piece.flaws 0 (cut text.toList)) ∧ e = .malformed v.cause) ∧
    (∀ c, (Malformation.invalidCharacter c).message = s!"invalid character '{c}'") ∧
    (∀ run, (Malformation.outOfRange run).message = s!"number '{run}' is out of range") ∧
    ∀ m, (Fault.malformed m).message = s!"Malformed expression: {m.message}" := by
  obtain ⟨hread, hfirst⟩ := Piece.scan_iff text
  exact ⟨fun _ => isCut_iff, hread, hfirst, fun _ => rfl, fun _ => rfl, fun _ => rfl⟩

end Formulary
