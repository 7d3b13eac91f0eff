import Formulary.Fault
import Formulary.Number.Numeral
import Formulary.Text.Alphabetic
import Formulary.Text.WhiteSpace
import Formulary.Token

/-!
# Scanning

A text becomes tokens in one pass from left to right. Digits and points gather into a run, letters
into another; a run ends at the first character that does not belong to it and is read then. Where
a run of digits touches a run of letters, a product is understood between them.

A character without meaning is a fault as soon as it is met, so it is reported before the run
in front of it has been read.
-/

namespace Formulary

/-- What a character is to the scanner. -/
inductive Glyph where
  /-- White space. -/
  | blank
  /-- A bracket, a token by itself. -/
  | mark (token : Token)
  /-- The sign of an operator. -/
  | sign
  /-- A digit or a point. -/
  | numeral
  /-- A letter. -/
  | letter
  /-- A character without meaning. -/
  | foreign
  deriving DecidableEq

/-- The part that a character plays. -/
def Glyph.of (c : Char) : Glyph :=
  if Text.isWhiteSpace c then blank
  else if c = '(' then mark .opening
  else if c = ')' then mark .closing
  else if c ∈ ['+', '-', '*', '/', '^'] then sign
  else if isNumeralChar c then numeral
  else if Text.isAlphabetic c then letter
  else foreign

namespace Token

/-- The token of a whole run of digits and points. -/
def ofNumeral (run : List Char) : Except Fault Token :=
  match Numeral.decimal? run with
  | none => .ok (.unreadable (.ofList run))
  | some d =>
    match d.toFloat? with
    | some x => .ok (.number x)
    | none => .error (.malformed (.outOfRange (.ofList run)))

/-- The token of a whole run of letters. -/
def ofWord : List Char → Token
  | [c] => .name c
  | run => .unreadable (.ofList run)

end Token

/-- The run that is being gathered, its last character first. -/
inductive Scanner.Run where
  /-- There is none. -/
  | none
  /-- A run of digits and points. -/
  | numeral (chars : List Char)
  /-- A run of letters. -/
  | word (chars : List Char)
  deriving DecidableEq

/-- The tokens of a run that has ended. -/
def Scanner.Run.tokens : Scanner.Run → Except Fault (List Token)
  | none => .ok []
  | numeral cs => (Token.ofNumeral cs.reverse).map ([·])
  | word cs => .ok [Token.ofWord cs.reverse]

/-- The state of a scan. -/
structure Scanner where
  /-- The tokens found so far, the last one first. -/
  found : List Token
  /-- The run that is being gathered. -/
  pending : Scanner.Run
  deriving DecidableEq

namespace Scanner

/-- The state before the first character. -/
def start : Scanner := ⟨[], .none⟩

/-- Ends the current run, adds what stands behind it, and goes on with another run. -/
def endRun (s : Scanner) (behind : List Token) (next : Run) : Except Fault Scanner := do
  let ts ← s.pending.tokens
  pure ⟨behind ++ ts ++ s.found, next⟩

/-- Takes in one character. -/
def step (s : Scanner) (c : Char) : Except Fault Scanner :=
  match Glyph.of c with
  | .blank => s.endRun [] .none
  | .mark t => s.endRun [t] .none
  | .sign => do
    let t ← s.endRun [] .none
    let op ← Operator.ofSymbol c
    pure ⟨.operator op :: t.found, .none⟩
  | .numeral =>
    match s.pending with
    | .none => .ok { s with pending := .numeral [c] }
    | .numeral cs => .ok { s with pending := .numeral (c :: cs) }
    | .word _ => s.endRun [.operator .multiply] (.numeral [c])
  | .letter =>
    match s.pending with
    | .none => .ok { s with pending := .word [c] }
    | .word cs => .ok { s with pending := .word (c :: cs) }
    | .numeral _ => s.endRun [.operator .multiply] (.word [c])
  | .foreign => .error (.malformed (.invalidCharacter c))

/-- Takes in characters one after another. -/
def feed (s : Scanner) (cs : List Char) : Except Fault Scanner := cs.foldlM step s

/-- Ends the scan. -/
def finish (s : Scanner) : Except Fault (List Token) :=
  (s.endRun [] .none).map fun t => t.found.reverse

@[simp] theorem feed_nil (s : Scanner) : s.feed [] = .ok s := rfl

@[simp] theorem feed_cons (s : Scanner) (c : Char) (cs : List Char) :
    s.feed (c :: cs) = s.step c >>= fun t => t.feed cs := rfl

/-- A text in two parts is scanned part by part. -/
theorem feed_append (s : Scanner) (cs ds : List Char) :
    s.feed (cs ++ ds) = s.feed cs >>= fun t => t.feed ds := by
  simp [feed]

end Scanner

/-- The tokens of a text. -/
def Token.scan (text : String) : Except Fault (List Token) :=
  Scanner.start.feed text.toList >>= Scanner.finish

end Formulary
