import BoundQuery.Cursor.Calls
import BoundQuery.Cursor.Script
import BoundQuery.Record.Plan

/-!
# Scanning a cursor

A scan reads into one buffer, null at first, and turns each filled buffer into a
result. Turning it into a row moves the values out and leaves null behind;
decoding a record only looks, so its buffer goes on as it is. A scan makes no
call but reads.
-/

namespace BoundQuery

/-- What a fetch can fail with. -/
inductive FetchError where
  | core (e : Error)
  | scan
  | close
  deriving DecidableEq, Repr

def FetchError.message : FetchError → String
  | .core e => e.message
  | .scan => "scan failed"
  | .close => "close failed"

inductive ScanEnd (α : Type) where
  | done (result : α)
  | failed (e : FetchError)
  | pending

namespace ScanEnd

variable {α β : Type}

/-- Changes the result of a scan that got one. -/
def map (f : α → β) : ScanEnd α → ScanEnd β
  | .done a => .done (f a)
  | .failed e => .failed e
  | .pending => .pending

end ScanEnd

/-- What a scan makes of each filled buffer, and the buffer it reads into next. -/
structure Scanner (α : Type) where
  take : List SqlValue → Logged (Except Error α)
  recycle : List SqlValue → List SqlValue

namespace Scanner

/-- Makes rows, which empties the buffer. -/
def rows (columns : List String) : Scanner Row where
  take buffer := pure (.ok (.ofList (columns.zip buffer)))
  recycle buffer := buffer.map fun _ => .null

/-- Decodes records and leaves the buffer alone. -/
def records (T : RecordType) (columns : List String) : Scanner (Record T) where
  take buffer := (ColumnPlan.ofColumns T columns).decode columns buffer
  recycle buffer := buffer

/-- Makes a result of a filled buffer and puts it before what the rest of the scan makes. -/
def keep {α : Type} (scanner : Scanner α) (buffer : List SqlValue)
    (later : List SqlValue → Metered (ScanEnd (List α))) : Metered (ScanEnd (List α)) := do
  match ← Metered.ofLogged (scanner.take buffer) with
  | .error e => return .failed (.core e)
  | .ok a => return (← later (scanner.recycle buffer)).map (a :: ·)

end Scanner

namespace Script

variable (s : Script)

def emptyBuffer : List SqlValue := s.columns.map fun _ => .null

def next (done : Nat) (rest : List (List SqlValue)) : Metered Read := do
  Metered.call .next
  return s.read done rest

def close : Metered (Except FetchError Unit) := do
  Metered.call .close
  return if s.failClose then .error .close else .ok ()

/-- Reads on to the end, after `done` rows with `rest` left, and keeps every result. -/
def drainFrom {α : Type} (scanner : Scanner α) :
    (rest : List (List SqlValue)) → (done : Nat) → (buffer : List SqlValue) →
      Metered (ScanEnd (List α))
  | [], done, _ => do
    match ← s.next done [] with
    | .pending => return .pending
    | .failed => return .failed .scan
    | _ => return .done []
  | values :: rest, done, buffer => do
    match ← s.next done (values :: rest) with
    | .pending => return .pending
    | .failed => return .failed .scan
    | _ => scanner.keep (overwrite buffer values) (drainFrom scanner rest (done + 1))

def drain {α : Type} (scanner : Scanner α) : Metered (ScanEnd (List α)) :=
  s.drainFrom scanner s.rows 0 s.emptyBuffer

/-- Reads once; without a row the result is an empty row. -/
def first : Metered (ScanEnd Row) := do
  match ← s.next 0 s.rows with
  | .pending => return .pending
  | .failed => return .failed .scan
  | .exhausted => return .done .empty
  | .row values _ => return .done (.ofList (s.columns.zip (overwrite s.emptyBuffer values)))

@[simp] theorem value_next (done : Nat) (rest : List (List SqlValue)) :
    (s.next done rest).value = s.read done rest := rfl

@[simp] theorem events_next (done : Nat) (rest : List (List SqlValue)) :
    (s.next done rest).events = [] := rfl

@[simp] theorem calls_next (done : Nat) (rest : List (List SqlValue)) :
    (s.next done rest).calls = [.next] := rfl

@[simp] theorem value_close :
    s.close.value = if s.failClose then .error .close else .ok () := rfl

@[simp] theorem events_close : s.close.events = [] := rfl

@[simp] theorem calls_close : s.close.calls = [.close] := rfl

end Script
end BoundQuery
