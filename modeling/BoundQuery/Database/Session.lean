import BoundQuery.Database.Basic

/-!
# Sessions

A session is a database with what is open on it: at most one transaction, one
prepared statement and one query result. Any sequence of calls on it is data. A
call on something that is not open answers that it is absent, and a call that
would wait for the connection without a limit of its own answers that it is busy;
neither changes anything.
-/

namespace BoundQuery

structure Session where
  db : Database
  transaction : Option Transaction
  prepared : Option PreparedStatement
  result : Option QueryResult

/-- A query text with the values to bind to it. -/
structure Request where
  sql : String
  named : Bindings
  positional : List SqlValue

/-- Binds the values of a request to the statement of its text. -/
def Request.bound (r : Request) (s : Statement) : Statement :=
  (s.bindNamedAll r.named).bindPositionalAll r.positional

namespace Session

/-- The calls on a session. Those on the result come last. -/
inductive Call where
  | statement (sql : String)
  | exec (request : Request)
  | query (request : Request)
  | queryRow (request : Request)
  | begin
  | commit
  | rollback
  | dropTransaction
  | transactionStatement (sql : String)
  | transactionExec (request : Request)
  | transactionQuery (request : Request)
  | transactionRow (request : Request)
  | prepare (sql : String)
  | bind (name : String) (v : SqlValue)
  | bindAll (bindings : Bindings)
  | clearBindings
  | preparedExec
  | preparedQuery
  | preparedRow
  | configure (config : DatabaseConfig)
  | reopen
  | countRows
  | close
  | fetchAll
  | fetchOne
  | fetchTyped (T : RecordType)
  | closeResult
  | dropResult

inductive Answer where
  | absent
  | busy
  | done
  | failed (e : DbError)
  | statement (s : Statement)
  | executed (r : ExecResult)
  | row (r : Row)
  | rows (rs : List Row)
  | records (T : RecordType) (rs : List (Record T))

namespace Answer

def ofExcept {α : Type} (f : α → Answer) : Except DbError α → Answer
  | .ok a => f a
  | .error e => .failed e

end Answer

def start (db : Database) : Session := ⟨db, none, none, none⟩

variable (s : Session)

def withPool (p : Pool) : Session := { s with db := s.db.withPool p }

/-- Whether a call with this limit would wait for the connection with no limit but the pool's. -/
def wouldWait (limit : Option Duration) : Bool := s.db.pool.lender.inUse && limit.isNone

def keepResult : Except DbError QueryResult × Pool → Session
  | (.ok r, p) => { s.withPool p with result := some r }
  | (.error _, p) => s.withPool p

/-- How long counting the rows waits while something holds the connection. -/
def countLimit : Duration := .ofMillis 20

def countText : String := "SELECT COUNT(*) AS n FROM kv"

/-- Counts the rows through another handle on the pool, which has default settings. -/
def countRows : Logged (Answer × Session) := do
  let settings : DatabaseConfig := default
  let other : Database :=
    ⟨s.db.pool, if s.db.pool.lender.inUse then settings.withTimeout countLimit else settings⟩
  let statement ← other.statement countText
  let (row, p) ← other.queryRow statement
  return (.ofExcept .row row, s.withPool p)

def onTransaction (f : Transaction → Logged (Answer × Session)) : Logged (Answer × Session) :=
  match s.transaction with
  | some t => f t
  | none => pure (.absent, s)

/-- Makes a call on the prepared statement, unless it would wait with no limit but the pool's. -/
def onPrepared (f : PreparedStatement → Logged (Answer × Session)) : Logged (Answer × Session) :=
  match s.prepared with
  | some ps => if s.wouldWait ps.timeout then pure (.busy, s) else f ps
  | none => pure (.absent, s)

def updatePrepared (f : PreparedStatement → PreparedStatement) : Answer × Session :=
  match s.prepared with
  | some ps => (.done, { s with prepared := some (f ps) })
  | none => (.absent, s)

/-- Makes a call on the database, unless it would wait with no limit but the pool's. -/
def onDatabase (r : Request) (f : Statement → Logged (Answer × Session)) :
    Logged (Answer × Session) := do
  if s.wouldWait s.db.config.timeout then return (.busy, s)
  f (r.bound (← s.db.statement r.sql))

def onResult {α : Type} (answer : α → Answer)
    (fetch : QueryResult → Pool → Logged (Except DbError α × QueryResult × Pool)) :
    Logged (Answer × Session) := do
  match s.result with
  | none => return (.absent, s)
  | some r =>
    let (result, r, p) ← fetch r s.db.pool
    return (.ofExcept answer result, { s.withPool p with result := some r })

/-- Ends the transaction, with a result that is open on it. -/
def endTransaction (p : Pool) : Session :=
  { s.withPool p with transaction := none, result := none }

def call (s : Session) : Call → Logged (Answer × Session)
  | .statement sql => do return (.statement (← s.db.statement sql), s)
  | .exec r => s.onDatabase r fun statement => do
    let (result, p) ← s.db.exec statement
    return (.ofExcept .executed result, s.withPool p)
  | .query r => s.onDatabase r fun statement => do
    let opened ← s.db.query statement
    return (.ofExcept (fun _ => .done) opened.1, s.keepResult opened)
  | .queryRow r => s.onDatabase r fun statement => do
    let (row, p) ← s.db.queryRow statement
    return (.ofExcept .row row, s.withPool p)
  | .begin => do
    if s.db.pool.lender.inUse then return (.busy, s)
    match ← s.db.begin with
    | (.ok t, p) => return (.done, { s.withPool p with transaction := some t })
    | (.error e, p) => return (.failed e, s.withPool p)
  | .commit => s.onTransaction fun t => do
    let (result, p) ← t.commit s.db.pool
    return (.ofExcept (fun _ => .done) result, s.endTransaction p)
  | .rollback => s.onTransaction fun t => do
    let (result, p) ← t.rollback s.db.pool
    return (.ofExcept (fun _ => .done) result, s.endTransaction p)
  | .dropTransaction => s.onTransaction fun t => pure (.done, s.endTransaction (t.drop s.db.pool))
  | .transactionStatement sql =>
    s.onTransaction fun t => do return (.statement (← t.statement sql), s)
  | .transactionExec r => s.onTransaction fun t => do
    let (result, p) ← t.exec (r.bound (← t.statement r.sql)) s.db.pool
    return (.ofExcept .executed result, s.withPool p)
  | .transactionQuery r => s.onTransaction fun t => do
    let (opened, p) ← t.query (r.bound (← t.statement r.sql)) s.db.pool
    return (.ofExcept (fun _ => .done) opened, s.keepResult (opened, p))
  | .transactionRow r => s.onTransaction fun t => do
    let (row, p) ← t.queryRow (r.bound (← t.statement r.sql)) s.db.pool
    return (.ofExcept .row row, s.withPool p)
  | .prepare sql => do
    if s.wouldWait s.db.config.timeout then return (.busy, s)
    match ← s.db.prepare sql with
    | (.ok ps, p) => return (.done, { s.withPool p with prepared := some ps })
    | (.error e, p) => return (.failed e, s.withPool p)
  | .bind name v => pure (s.updatePrepared (·.bindNamed name v))
  | .bindAll bindings => pure (s.updatePrepared (·.bindNamedAll bindings))
  | .clearBindings => pure (s.updatePrepared (·.clearBindings))
  | .preparedExec => s.onPrepared fun ps => do
    let (result, p) ← ps.exec s.db.pool
    return (.ofExcept .executed result, s.withPool p)
  | .preparedQuery => s.onPrepared fun ps => do
    let opened ← ps.query s.db.pool
    return (.ofExcept (fun _ => .done) opened.1, s.keepResult opened)
  | .preparedRow => s.onPrepared fun ps => do
    let (row, p) ← ps.queryRow s.db.pool
    return (.ofExcept .row row, s.withPool p)
  | .configure config => pure (.done, { s with db := s.db.withConfig config })
  | .reopen => pure (.done, { s with db := .ofPool s.db.pool })
  | .countRows => s.countRows
  | .close =>
    match s.db.pool.lender.close? with
    | none => pure (.busy, s)
    | some lender => pure (.done, s.withPool { s.db.pool with lender := lender })
  | .fetchAll => s.onResult .rows (·.fetchAll)
  | .fetchOne => s.onResult .row (·.fetchOne)
  | .fetchTyped T => s.onResult (.records T) (·.fetchTyped T)
  | .closeResult =>
    match s.result with
    | none => pure (.absent, s)
    | some r =>
      let (r, p) := r.close s.db.pool
      pure (.done, { s.withPool p with result := some r })
  | .dropResult =>
    match s.result with
    | none => pure (.absent, s)
    | some r => pure (.done, { s.withPool (r.close s.db.pool).2 with result := none })

/-- The session after a sequence of calls, with all that was logged. -/
def run (s : Session) : List Call → Logged Session
  | [] => pure s
  | c :: calls => do
    let (_, s) ← s.call c
    run s calls

/-- Connects and creates the table. -/
def connect (config : DatabaseConfig) : Logged (Except DbError Session) := do
  match ← Database.connect config with
  | .error e => return .error e
  | .ok db =>
    db.reportTable
    return .ok (start db)

end Session
end BoundQuery
