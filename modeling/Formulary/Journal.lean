import Formulary.Bindings
import Formulary.Fault
import Formulary.Formula

/-!
# The journal

What is done is written down, record by record. A logged outcome is an outcome together with the
records that were written on the way to it; logged steps are joined by `do`, and a fault ends
them but keeps the records written before it.
-/

namespace Formulary

/-- What a journal record says. -/
inductive Record where
  /-- A text is about to be compiled. -/
  | compiling (text : String)
  /-- A text has been scanned. -/
  | scanned (text : String) (tokens : List Token)
  /-- Tokens have been brought into reverse Polish order. -/
  | ordered (tokens : List Token)
  /-- A formula has been assembled. -/
  | assembled (formula : Formula)
  /-- An operation has been carried out. -/
  | applied (left : Float) (op : Operator) (right result : Float)
  /-- The formula of a text was remembered. -/
  | recalled (text : String)
  /-- The formula of a text was not remembered. -/
  | unknown (text : String)
  /-- An equation has been put into the catalogue. -/
  | stored (id : UInt64) (text : String)
  /-- An equation of the catalogue is about to be evaluated. -/
  | evaluating (id : UInt64) (bindings : Bindings)
  deriving DecidableEq

namespace Record

/-- The wording of a record. -/
def message : Record → String
  | compiling text => s!"Compiling expression: {text}"
  | scanned text tokens => s!"Tokens for '{text}': {Token.shownList tokens}"
  | ordered tokens => s!"Postfix: {Token.shownList tokens}"
  | assembled formula => s!"Built tree: {formula.render}"
  | applied left op right result =>
    s!"{Layout.plain.write left} {op.symbol} {Layout.plain.write right} = {Layout.plain.write result}"
  | recalled text => s!"Cache hit: {text}"
  | unknown text => s!"Cache miss: {text}"
  | stored id text => s!"Stored equation {id.toNat}: {text}"
  | evaluating id bindings => s!"Evaluating equation {id.toNat} with {bindings.shown}"

/-- How closely one has to look to see a record: single operations are traced, the rest is for
debugging. -/
def level : Record → String
  | applied .. => "TRACE"
  | _ => "DEBUG"

/-- The line of a record in the journal. -/
def line (r : Record) : String := s!"{r.level} {r.message}"

end Record

/-- An outcome with the records written on the way to it. -/
structure Logged (ε α : Type) where
  /-- The outcome. -/
  result : Except ε α
  /-- The records, the first one first. -/
  records : List Record

namespace Logged

variable {ε ε' α β : Type}

/-- An outcome without records. -/
def quiet (r : Except ε α) : Logged ε α := ⟨r, []⟩

/-- A record and nothing else. -/
def write (r : Record) : Logged ε Unit := ⟨.ok (), [r]⟩

/-- An outcome, and a record of it in case of success. -/
def recording (r : Except ε α) (record : α → Record) : Logged ε α :=
  match r with
  | .ok a => ⟨.ok a, [record a]⟩
  | .error e => ⟨.error e, []⟩

/-- Goes on with a logged step after a success. -/
protected def bind (x : Logged ε α) (f : α → Logged ε β) : Logged ε β :=
  match x.result with
  | .error e => ⟨.error e, x.records⟩
  | .ok a =>
    let y := f a
    ⟨y.result, x.records ++ y.records⟩

instance : Monad (Logged ε) where
  pure a := quiet (.ok a)
  bind := Logged.bind

/-- Names the cause of a failure anew. -/
def mapError (f : ε → ε') (x : Logged ε α) : Logged ε' α := ⟨x.result.mapError f, x.records⟩

@[simp] theorem result_pure (a : α) : (pure a : Logged ε α).result = .ok a := rfl

@[simp] theorem records_pure (a : α) : (pure a : Logged ε α).records = [] := rfl

@[simp] theorem result_quiet (r : Except ε α) : (quiet r).result = r := rfl

@[simp] theorem records_quiet (r : Except ε α) : (quiet r).records = [] := rfl

@[simp] theorem result_write (r : Record) : (write r : Logged ε Unit).result = .ok () := rfl

@[simp] theorem records_write (r : Record) : (write r : Logged ε Unit).records = [r] := rfl

@[simp] theorem result_recording (r : Except ε α) (record : α → Record) :
    (recording r record).result = r := by
  cases r <;> rfl

@[simp] theorem result_mapError (f : ε → ε') (x : Logged ε α) :
    (x.mapError f).result = x.result.mapError f := rfl

@[simp] theorem records_mapError (f : ε → ε') (x : Logged ε α) :
    (x.mapError f).records = x.records := rfl

/-- The outcome of joined steps is that of their outcomes joined. -/
@[simp] theorem result_bind (x : Logged ε α) (f : α → Logged ε β) :
    (x >>= f).result = x.result >>= fun a => (f a).result := by
  show (Logged.bind x f).result = _
  unfold Logged.bind
  split <;> rename_i h <;> rw [h] <;> rfl

theorem records_bind_of_ok {x : Logged ε α} {a : α} (h : x.result = .ok a)
    (f : α → Logged ε β) : (x >>= f).records = x.records ++ (f a).records := by
  show (Logged.bind x f).records = _
  unfold Logged.bind
  rw [h]

theorem records_bind_of_error {x : Logged ε α} {e : ε} (h : x.result = .error e)
    (f : α → Logged ε β) : (x >>= f).records = x.records := by
  show (Logged.bind x f).records = _
  unfold Logged.bind
  rw [h]

/-- Outcomes are the same if their results and their records are. -/
protected theorem ext {x y : Logged ε α} (hr : x.result = y.result)
    (hs : x.records = y.records) : x = y := by
  cases x
  cases y
  cases hr
  cases hs
  rfl

/-- A step after a success goes on, with the records so far in front. -/
theorem bind_of_ok {x : Logged ε α} {a : α} (h : x.result = .ok a) (f : α → Logged ε β) :
    x >>= f = ⟨(f a).result, x.records ++ (f a).records⟩ :=
  Logged.ext (by rw [result_bind, h]; rfl) (records_bind_of_ok h f)

/-- Nothing goes on after a failure. -/
theorem bind_of_error {x : Logged ε α} {e : ε} (h : x.result = .error e) (f : α → Logged ε β) :
    x >>= f = ⟨.error e, x.records⟩ :=
  Logged.ext (by rw [result_bind, h]; rfl) (records_bind_of_error h f)

instance : LawfulMonad (Logged ε) :=
  LawfulMonad.mk' _
    (fun x => by
      show x >>= pure = x
      cases h : x.result with
      | ok a => rw [bind_of_ok h]; exact Logged.ext h.symm (List.append_nil _)
      | error e => rw [bind_of_error h]; exact Logged.ext h.symm rfl)
    (fun a f => by rw [bind_of_ok rfl]; exact Logged.ext rfl rfl)
    (fun x f g => by
      cases h : x.result with
      | error e => rw [bind_of_error h, bind_of_error rfl, bind_of_error h]
      | ok a =>
        rw [bind_of_ok h, bind_of_ok h]
        cases h2 : (f a).result with
        | error e => rw [bind_of_error rfl, bind_of_error h2]
        | ok b =>
          rw [bind_of_ok rfl, bind_of_ok h2]
          exact Logged.ext rfl (List.append_assoc ..))

@[simp] theorem result_map (f : α → β) (x : Logged ε α) :
    (f <$> x).result = f <$> x.result := by
  rw [← bind_pure_comp, ← bind_pure_comp, result_bind]
  rfl

@[simp] theorem records_map (f : α → β) (x : Logged ε α) : (f <$> x).records = x.records := by
  rw [← bind_pure_comp]
  cases h : x.result with
  | ok a => rw [bind_of_ok h]; exact List.append_nil _
  | error e => rw [bind_of_error h]

end Logged

end Formulary
