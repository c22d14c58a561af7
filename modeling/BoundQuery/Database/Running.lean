import BoundQuery.Cursor.ResultSet
import BoundQuery.Database.Pool
import BoundQuery.Statement.Basic

/-!
# Running compiled statements

What the holder of the connection does with a compiled statement: execute it,
have it validated, or stream its rows. Executing steps through all rows; a stream
is read through a result set, so it stops where the fetch stops. One row is asked
for in a way of its own. All calls report what they run.
-/

namespace BoundQuery

/-- An executed statement and what it did. -/
structure ExecResult where
  statement : CompiledStatement
  rowsAffected : Nat
  lastInsertId : Int

/-- The answer to an execution, given what the engine says of it. -/
def ExecResult.ofEngine (c : CompiledStatement) : Option (Nat × Int) → Except DbError ExecResult
  | some (rowsAffected, lastInsertId) => .ok ⟨c, rowsAffected, lastInsertId⟩
  | none => .error .driver

namespace Driver

variable {σ : Type} [Engine σ] (s : σ)

/-- Validates a text: the columns that it yields, if the engine accepts it. -/
def describe (sql : String) : Except DbError (List String) :=
  match Engine.columns? s sql with
  | some columns => .ok columns
  | none => .error .driver

def execute (c : CompiledStatement) : Logged (Except DbError ExecResult × σ) := do
  Logged.emit (.executing c.sql c.args.length)
  let (done, s) := Engine.execute s c.sql (bindArgs c.args)
  return (ExecResult.ofEngine c done, s)

def fetch (c : CompiledStatement) : Logged (RowStream (Engine.Column σ) σ) := do
  Logged.emit (.runningQuery c.sql c.args.length)
  return Engine.fetch s c.sql (bindArgs c.args)

/-- Streams at most the first row. The engine is asked for it by the first read. -/
def fetchFirst (c : CompiledStatement) : Logged (RowStream (Engine.Column σ) σ) := do
  Logged.emit (.runningSingleRowQuery c.sql c.args.length)
  let (row, kept) := Engine.fetchOptional s c.sql (bindArgs c.args)
  return ⟨RowStream.once row, fun reads => if reads = 0 then s else kept⟩

end Driver

/-- The answer of a fetch. An engine's cursors never wait, so none is cancelled. -/
def Fetched.toAnswer {α : Type} : Fetched α → Except DbError α
  | .answered (.ok a) => .ok a
  | .answered (.error (.core e)) => .error (.core e)
  | .answered (.error _) => .error .driver
  | .cancelled => .error .driver

/-- Where a result has its connection from. -/
inductive Handle where
  | pooled
  | borrowed
  deriving DecidableEq, Repr

/-- A validated query before and after its one fetch. -/
structure QueryResult where
  statement : CompiledStatement
  columns : List String
  handle : Option Handle

namespace QueryResult

variable {π σ : Type} [Lending π] (r : QueryResult)

def isClosed : Bool := r.handle.isNone

def closed : QueryResult := { r with handle := none }

/-- Gives up the handle; the connection goes back to the pool if it came from there. -/
def close (p : Pool π σ) : QueryResult × Pool π σ :=
  match r.handle with
  | some .pooled => (r.closed, p.released)
  | _ => (r.closed, p)

variable [Engine σ]

/-- Uses the result up by reading a stream of its rows. -/
def fetch {α : Type} (stream : σ → CompiledStatement → Logged (RowStream (Engine.Column σ) σ))
    (read : ResultSet → Logged (Fetched α × ResultSet)) (p : Pool π σ) :
    Logged (Except DbError α × QueryResult × Pool π σ) := do
  if r.isClosed then return (.error (.core .resultClosed), r, p)
  let rows ← stream p.store r.statement
  let (fetched, rs) ← read (.ofScript (Cursor.script r.columns rows.items))
  let (r, p) := r.close (p.withStore (rows.after rs.reads))
  return (fetched.toAnswer, r, p)

def fetchAll (p : Pool π σ) : Logged (Except DbError (List Row) × QueryResult × Pool π σ) :=
  r.fetch Driver.fetch (·.fetchAll) p

def fetchOne (p : Pool π σ) : Logged (Except DbError Row × QueryResult × Pool π σ) :=
  r.fetch Driver.fetchFirst (·.fetchOne) p

def fetchTyped (T : RecordType) (p : Pool π σ) :
    Logged (Except DbError (List (Record T)) × QueryResult × Pool π σ) :=
  r.fetch Driver.fetch (·.fetchTyped T) p

end QueryResult
end BoundQuery
