import BoundQuery.Cursor.Scan

/-!
# Result sets

A result set owns a cursor for one use. A fetch, a close or a drop takes the
cursor out of it and puts it under a guard, and nothing puts one back. A guard
is released or let go of: released, it answers how closing went; let go of, by
an error, a cancelled fetch or a drop, it closes a cursor that it still has and
can only report a failure.
-/

namespace BoundQuery

/-- A cursor taken out of a result set. -/
structure Guard where
  cursor : Option Script

namespace Guard

variable (g : Guard)

def drop : Metered Unit := do
  match g.cursor with
  | some s =>
    match ← s.close with
    | .error e => Metered.ofLogged (Logged.emit (.closeFailed e.message))
    | .ok _ => return ()
  | none => return ()

/-- Takes the cursor out of the guard and closes it; the empty guard is let go of. -/
def release : Metered (Except FetchError Unit) := do
  match g.cursor with
  | some s =>
    let result ← s.close
    drop ⟨none⟩
    return result
  | none => return .ok ()

end Guard

inductive Phase where
  | opened | closed | dropped
  deriving DecidableEq, Repr

/-- A result set and the calls that its cursor has had, also after it gave the cursor away. -/
structure ResultSet where
  columns : List String
  cursor : Option Script
  isDropped : Bool
  calls : List CursorCall

/-- A fetch answers, unless it was given up while it waited. -/
inductive Fetched (α : Type) where
  | answered (result : Except FetchError α)
  | cancelled

namespace ResultSet

def ofScript (s : Script) : ResultSet := ⟨s.columns, some s, false, []⟩

variable (rs : ResultSet)

def isClosed : Bool := rs.cursor.isNone

def phase : Phase :=
  if rs.isDropped then .dropped else if rs.isClosed then .closed else .opened

def reads : Nat := rs.calls.count .next

def closes : Nat := rs.calls.count .close

def takeCursor : Option Script × ResultSet := (rs.cursor, { rs with cursor := none })

/-- Runs a use of the set and keeps the calls it made. -/
def recording {α : Type} (x : Metered (α × ResultSet)) : Logged (α × ResultSet) := do
  let (a, rs) ← x.toLogged
  return (a, { rs with calls := rs.calls ++ x.calls })

/-- Uses the cursor up by a scan. The guard is released by a scan that came to its end and let go
of by all others. -/
def fetch {α : Type} (scan : Script → Metered (ScanEnd α)) : Logged (Fetched α × ResultSet) :=
  recording do
    match rs.takeCursor with
    | (none, rs) => return (.answered (.error (.core .resultClosed)), rs)
    | (some s, rs) =>
      let guard : Guard := ⟨some s⟩
      match ← scan s with
      | .done result =>
        let released ← guard.release
        return (.answered (released.map fun _ => result), rs)
      | .failed e =>
        guard.drop
        return (.answered (.error e), rs)
      | .pending =>
        guard.drop
        return (.cancelled, rs)

def fetchAll : Logged (Fetched (List Row) × ResultSet) :=
  rs.fetch fun s => s.drain (.rows s.columns)

/-- Reads the first row and no more. -/
def fetchOne : Logged (Fetched Row × ResultSet) := rs.fetch fun s => s.first

def fetchTyped (T : RecordType) : Logged (Fetched (List (Record T)) × ResultSet) :=
  rs.fetch fun s => s.drain (.records T s.columns)

def close : Logged (Except FetchError Unit × ResultSet) :=
  recording do
    match rs.takeCursor with
    | (some s, rs) => return (← Guard.release ⟨some s⟩, rs)
    | (none, rs) => return (.ok (), rs)

/-- Gives the set up. -/
def drop : Logged (Unit × ResultSet) :=
  recording do
    match rs.takeCursor with
    | (some s, rs) =>
      Guard.drop ⟨some s⟩
      return ((), { rs with isDropped := true })
    | (none, rs) => return ((), { rs with isDropped := true })

end ResultSet
end BoundQuery
