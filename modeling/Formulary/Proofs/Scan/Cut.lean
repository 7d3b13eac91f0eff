import Formulary.Proofs.Scan
import Mathlib.Data.List.Chain

/-!
# Texts cut into pieces

A text falls into runs of digits and points, runs of letters, and single other characters, where
every run goes on as long as it can. Its tokens can be told piece by piece, and so can what is wrong
with it, without a scan from left to right.

A numeral beyond all doubles is noticed at its end, where it is known to be complete. So of several
flaws that one counts which is noticed first, and where a numeral ends at a character without
meaning, the character does.
-/

namespace Formulary

/-- The token of an operator or a bracket. -/
def Token.ofSign? : Char → Option Token
  | '(' => some opening
  | ')' => some closing
  | '+' => some (operator .add)
  | '-' => some (operator .subtract)
  | '*' => some (operator .multiply)
  | '/' => some (operator .divide)
  | '^' => some (operator .power)
  | _ => none

theorem Token.ofSign?_eq_some_iff {c : Char} {t : Token} :
    ofSign? c = some t ↔
      c = '(' ∧ t = opening ∨ c = ')' ∧ t = closing ∨ ∃ op, c = op.symbol ∧ t = operator op := by
  constructor
  · intro h
    unfold ofSign? at h
    split at h <;> cases h
    · exact .inl ⟨rfl, rfl⟩
    · exact .inr (.inl ⟨rfl, rfl⟩)
    all_goals exact .inr (.inr ⟨_, rfl, rfl⟩)
  · rintro (⟨rfl, rfl⟩ | ⟨rfl, rfl⟩ | ⟨op, rfl, rfl⟩)
    · rfl
    · rfl
    · cases op <;> rfl

/-- A piece of a text. -/
inductive Piece where
  /-- A run of digits and points. -/
  | numeral (run : List Char)
  /-- A run of letters. -/
  | word (run : List Char)
  /-- A character of another kind. -/
  | sign (c : Char)
  deriving DecidableEq

namespace Piece

/-- The characters of a piece. -/
def chars : Piece → List Char
  | numeral run | word run => run
  | sign c => [c]

/-- The characters of a piece are of its kind, and there are some. -/
def IsPure : Piece → Prop
  | numeral run => run ≠ [] ∧ ∀ c ∈ run, isNumeralChar c = true
  | word run => run ≠ [] ∧ ∀ c ∈ run, Text.isAlphabetic c = true
  | sign c => isNumeralChar c = false ∧ Text.isAlphabetic c = false

/-- Whether two pieces would be one run if they stood next to each other. -/
def joins : Piece → Piece → Bool
  | numeral _, numeral _ | word _, word _ => true
  | _, _ => false

/-- The tokens of a piece. A numeral beyond all doubles has none. -/
def tokens : Piece → List Token
  | numeral run =>
    if Numeral.isWellFormed run then ((Numeral.value run).toFloat?.map .number).toList
    else [.unreadable (.ofList run)]
  | word [c] => [.name c]
  | word run => [.unreadable (.ofList run)]
  | sign c => (Token.ofSign? c).toList

/-- The product that is understood between a piece and the pieces behind it. -/
def link : Piece → List Piece → List Token
  | numeral _, word _ :: _ | word _, numeral _ :: _ => [.operator .multiply]
  | _, _ => []

/-- The tokens of pieces, products between them included. -/
def read : List Piece → List Token
  | [] => []
  | p :: ps => p.tokens ++ p.link ps ++ read ps

/-- Puts a character in front of pieces, into the first one if it is a run of its kind. -/
def extend (c : Char) (ps : List Piece) : List Piece :=
  if isNumeralChar c then
    match ps with
    | numeral run :: ps => numeral (c :: run) :: ps
    | ps => numeral [c] :: ps
  else if Text.isAlphabetic c then
    match ps with
    | word run :: ps => word (c :: run) :: ps
    | ps => word [c] :: ps
  else sign c :: ps

end Piece

/-- The pieces of a text. -/
def cut (cs : List Char) : List Piece := cs.foldr Piece.extend []

/-- The pieces `ps` are those of the text `cs`: together they are the text, each is of one kind, and
no two neighbours are parts of one run. -/
structure IsCut (cs : List Char) (ps : List Piece) : Prop where
  chars : ps.flatMap Piece.chars = cs
  pure : ∀ p ∈ ps, p.IsPure
  maximal : ps.IsChain fun p q => p.joins q = false

/-! ### Flaws -/

/-- Something wrong with a text. -/
structure Flaw where
  /-- How many characters stand in front of the place where it is noticed. -/
  position : Nat
  /-- What is wrong. -/
  cause : Malformation
  deriving DecidableEq

namespace Flaw

/-- Whether a flaw is a character without meaning. -/
def isForeign (v : Flaw) : Bool :=
  match v.cause with
  | .invalidCharacter _ => true
  | _ => false

/-- Whether a flaw is noticed before another one, or may be noticed at the same time. In one place a
character without meaning is noticed before all else. -/
def NoLater (v w : Flaw) : Prop :=
  v.position < w.position ∨ v.position = w.position ∧ (w.isForeign = true → v.isForeign = true)

/-- Of some flaws, `v` is the one that is noticed first. -/
def IsFirst (v : Flaw) (vs : List Flaw) : Prop := v ∈ vs ∧ ∀ w ∈ vs, v.NoLater w

end Flaw

namespace Piece

/-- What is wrong with a piece that has `start` characters in front of it: a numeral is beyond all
doubles, which is noticed behind it, or a character is neither white space nor an operator nor a
bracket. -/
def flaw? (start : Nat) : Piece → Option Flaw
  | numeral run =>
    if Numeral.isWellFormed run = true ∧ (Numeral.value run).toFloat? = none then
      some ⟨start + run.length, .outOfRange (.ofList run)⟩
    else none
  | word _ => none
  | sign c =>
    if Text.isWhiteSpace c = true ∨ (Token.ofSign? c).isSome = true then none
    else some ⟨start, .invalidCharacter c⟩

/-- What is wrong with pieces that have `start` characters in front of them. -/
def flaws (start : Nat) : List Piece → List Flaw
  | [] => []
  | p :: ps => (p.flaw? start).toList ++ flaws (start + p.chars.length) ps

end Piece

/-! ### There is one cut -/

/-- A character goes into the first piece if that is a run of its kind, and else becomes a piece by
itself. -/
theorem Piece.extend_cases (c : Char) (ps : List Piece) :
    (∃ p p' ps', ps = p :: ps' ∧ extend c ps = p' :: ps' ∧ p'.chars = c :: p.chars ∧
      (p.IsPure → p'.IsPure) ∧ ∀ q, p'.joins q = p.joins q) ∨
    ∃ p : Piece, extend c ps = p :: ps ∧ p.chars = [c] ∧ p.IsPure ∧
      ∀ q ∈ ps.head?, p.joins q = false := by
  unfold extend
  by_cases hn : isNumeralChar c = true
  · rw [if_pos hn]
    split
    · refine .inl ⟨_, _, _, rfl, rfl, rfl, by simp +contextual [IsPure, hn], ?_⟩
      intro q
      cases q <;> rfl
    · rename_i hps
      refine .inr ⟨numeral [c], rfl, rfl, by simp [IsPure, hn], ?_⟩
      intro q hq
      cases q with
      | numeral run =>
        obtain ⟨ps', rfl⟩ := List.head?_eq_some_iff.1 hq
        exact absurd rfl (hps run ps')
      | word | sign => rfl
  · rw [if_neg hn]
    by_cases ha : Text.isAlphabetic c = true
    · rw [if_pos ha]
      split
      · refine .inl ⟨_, _, _, rfl, rfl, rfl, by simp +contextual [IsPure, ha], ?_⟩
        intro q
        cases q <;> rfl
      · rename_i hps
        refine .inr ⟨word [c], rfl, rfl, by simp [IsPure, ha], ?_⟩
        intro q hq
        cases q with
        | word run =>
          obtain ⟨ps', rfl⟩ := List.head?_eq_some_iff.1 hq
          exact absurd rfl (hps run ps')
        | numeral | sign => rfl
    · rw [if_neg ha]
      exact .inr ⟨sign c, rfl, rfl, by simp [IsPure, hn, ha], fun q _ => rfl⟩

/-- A character in front of a text goes in front of its pieces. -/
theorem IsCut.extend {cs : List Char} {ps : List Piece} (h : IsCut cs ps) (c : Char) :
    IsCut (c :: cs) (Piece.extend c ps) := by
  obtain ⟨rfl, hpure, hmax⟩ := h
  obtain ⟨p, p', ps', rfl, he, hchars, hp', hjoins⟩ | ⟨p, he, hchars, hp, hjoins⟩ :=
    Piece.extend_cases c ps
  · rw [List.forall_mem_cons] at hpure
    rw [List.isChain_cons] at hmax
    rw [he]
    refine ⟨?_, List.forall_mem_cons.2 ⟨hp' hpure.1, hpure.2⟩, List.isChain_cons.2 ?_⟩
    · rw [List.flatMap_cons, List.flatMap_cons, hchars, List.cons_append]
    · simp only [hjoins]
      exact hmax
  · rw [he]
    refine ⟨?_, List.forall_mem_cons.2 ⟨hp, hpure⟩, List.isChain_cons.2 ⟨hjoins, hmax⟩⟩
    rw [List.flatMap_cons, hchars, List.singleton_append]

theorem isCut_cut (cs : List Char) : IsCut cs (cut cs) := by
  induction cs with
  | nil => exact ⟨rfl, by simp [cut], .nil⟩
  | cons c cs ih => exact ih.extend c

/-- The characters of a run, put in front of pieces one by one, make one piece if the last of them
begins a piece and the others go into it. -/
theorem Piece.foldr_extend_run {piece : List Char → Piece} {run : List Char} {ps : List Piece}
    (hne : run ≠ []) (hlast : ∀ c ∈ run, extend c ps = piece [c] :: ps)
    (hinner : ∀ c ∈ run, ∀ cs, extend c (piece cs :: ps) = piece (c :: cs) :: ps) :
    run.foldr extend ps = piece run :: ps := by
  induction run with
  | nil => exact absurd rfl hne
  | cons c run ih =>
    rw [List.forall_mem_cons] at hlast hinner
    rw [List.foldr_cons]
    cases run with
    | nil => exact hlast.1
    | cons d run => rw [ih (by simp) hlast.2 hinner.2, hinner.1]

/-- The characters of a piece, put in front of others one by one, make the piece. -/
theorem Piece.foldr_extend {p : Piece} (hp : p.IsPure) {ps : List Piece}
    (hps : ∀ q ∈ ps.head?, p.joins q = false) : p.chars.foldr extend ps = p :: ps := by
  cases p with
  | sign c => simp [chars, extend, hp.1, hp.2]
  | numeral run =>
    refine foldr_extend_run hp.1 ?_ ?_
    · intro c hc
      rcases ps with - | ⟨run' | run' | d, ps⟩
      · simp [extend, hp.2 c hc]
      · exact absurd (hps _ rfl) Bool.noConfusion
      · simp [extend, hp.2 c hc]
      · simp [extend, hp.2 c hc]
    · intro c hc cs
      simp [extend, hp.2 c hc]
  | word run =>
    refine foldr_extend_run hp.1 ?_ ?_
    · intro c hc
      have hn := Text.isNumeralChar_of_isAlphabetic (hp.2 c hc)
      rcases ps with - | ⟨run' | run' | d, ps⟩
      · simp [extend, hn, hp.2 c hc]
      · simp [extend, hn, hp.2 c hc]
      · exact absurd (hps _ rfl) Bool.noConfusion
      · simp [extend, hn, hp.2 c hc]
    · intro c hc cs
      have hn := Text.isNumeralChar_of_isAlphabetic (hp.2 c hc)
      simp [extend, hn, hp.2 c hc]

/-- The pieces of a text are cut out of it again. -/
theorem cut_flatMap_chars {ps : List Piece} (hpure : ∀ p ∈ ps, p.IsPure)
    (hmax : ps.IsChain fun p q => p.joins q = false) : cut (ps.flatMap Piece.chars) = ps := by
  induction ps with
  | nil => rfl
  | cons p ps ih =>
    rw [List.forall_mem_cons] at hpure
    rw [List.isChain_cons] at hmax
    rw [List.flatMap_cons, cut, List.foldr_append]
    show p.chars.foldr Piece.extend (cut (ps.flatMap Piece.chars)) = _
    rw [ih hpure.2 hmax.2, Piece.foldr_extend hpure.1 hmax.1]

/-- **There is one way to cut a text.** -/
theorem isCut_iff {cs : List Char} {ps : List Piece} : IsCut cs ps ↔ ps = cut cs := by
  constructor
  · intro h
    rw [← h.chars, cut_flatMap_chars h.pure h.maximal]
  · rintro rfl
    exact isCut_cut cs

example : cut "2.5x(".toList = [.numeral ['2', '.', '5'], .word ['x'], .sign '('] := by
  decide +kernel

/-! ### The tokens of a piece -/

namespace Piece

/-- A run has operands only. -/
theorem isOperand_of_mem_tokens {p : Piece} (hrun : ∀ c, p ≠ sign c) {t : Token}
    (ht : t ∈ p.tokens) : t.isOperand = true := by
  cases p with
  | sign c => exact absurd rfl (hrun c)
  | numeral run =>
    rw [tokens] at ht
    split at ht
    · obtain ⟨x, -, rfl⟩ := Option.map_eq_some_iff.1 (Option.mem_toList.1 ht)
      rfl
    · obtain rfl := List.mem_singleton.1 ht
      rfl
  | word run =>
    rcases run with - | ⟨c, - | ⟨d, run⟩⟩
    all_goals
      obtain rfl := List.mem_singleton.1 ht
      rfl

/-- A product that is understood between pieces is an operator. -/
theorem eq_multiply_of_mem_link {p : Piece} {ps : List Piece} {t : Token} (ht : t ∈ p.link ps) :
    t = .operator .multiply := by
  unfold link at ht
  split at ht
  · exact List.mem_singleton.1 ht
  · exact List.mem_singleton.1 ht
  · exact absurd ht List.not_mem_nil

/-- A run without a flaw has a token. -/
theorem tokens_ne_nil {p : Piece} (hrun : ∀ c, p ≠ sign c) {i : Nat} (hflaw : p.flaw? i = none) :
    p.tokens ≠ [] := by
  cases p with
  | sign c => exact absurd rfl (hrun c)
  | word run => rcases run with - | ⟨c, - | ⟨d, run⟩⟩ <;> exact List.cons_ne_nil _ _
  | numeral run =>
    rw [tokens]
    by_cases hw : Numeral.isWellFormed run = true
    · rw [if_pos hw]
      cases hx : (Numeral.value run).toFloat? with
      | some x => exact List.cons_ne_nil _ _
      | none =>
        rw [flaw?, if_pos ⟨hw, hx⟩] at hflaw
        cases hflaw
    · rw [if_neg hw]
      exact List.cons_ne_nil _ _

end Piece

/-! ### The flaw that is noticed first -/

namespace Flaw

theorem NoLater.refl (v : Flaw) : v.NoLater v := .inr ⟨rfl, id⟩

theorem NoLater.trans {u v w : Flaw} (h : u.NoLater v) (h' : v.NoLater w) : u.NoLater w := by
  unfold NoLater at *
  grind

theorem NoLater.total (v w : Flaw) : v.NoLater w ∨ w.NoLater v := by
  unfold NoLater
  grind

/-- Of some flaws one is noticed first. -/
theorem exists_isFirst {vs : List Flaw} (h : vs ≠ []) : ∃ v, IsFirst v vs := by
  induction vs with
  | nil => exact absurd rfl h
  | cons v vs ih =>
    by_cases hvs : vs = []
    · subst hvs
      exact ⟨v, by simp [IsFirst, NoLater.refl]⟩
    · obtain ⟨w, hw, hfirst⟩ := ih hvs
      rcases NoLater.total v w with hvw | hwv
      · refine ⟨v, List.mem_cons_self, ?_⟩
        intro u hu
        rcases List.mem_cons.1 hu with rfl | hu
        · exact .refl _
        · exact hvw.trans (hfirst u hu)
      · refine ⟨w, List.mem_cons_of_mem _ hw, ?_⟩
        intro u hu
        rcases List.mem_cons.1 hu with rfl | hu
        · exact hwv
        · exact hfirst u hu

end Flaw

end Formulary
