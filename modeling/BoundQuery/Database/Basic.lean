import BoundQuery.Database.Running

/-!
# Databases, transactions and prepared statements

Every call compiles its statement first, so that a binding error is answered
whatever the connection is doing and reaches neither the pool nor the store.
Calls on the database and on prepared statements ask the pool for the connection
each time; a transaction has it from its beginning to its end, and a query
result from the pool until it is fetched, closed or dropped.
-/

namespace BoundQuery

namespace Pool

variable {π σ : Type} [Lending π] (p : Pool π σ)

/-- Runs an action with the connection, if it can be had within the limit. -/
def withConnection {α : Type} (limit : Option Duration)
    (action : Pool π σ → Logged (Except DbError α × Pool π σ)) :
    Logged (Except DbError α × Pool π σ) :=
  match p.acquire limit with
  | .error e => return (.error e, p)
  | .ok lent => action lent

/-- Compiles a statement and runs an action on it with the connection. -/
def withCompiled {α : Type} (limit : Option Duration) (s : Statement)
    (action : CompiledStatement → Pool π σ → Logged (Except DbError α × Pool π σ)) :
    Logged (Except DbError α × Pool π σ) := do
  match ← s.compileLogged with
  | .error e => return (.error (.core e), p)
  | .ok c => p.withConnection limit (action c)

def hold (c : CompiledStatement) (columns : List String) : Except DbError QueryResult × Pool π σ :=
  (.ok ⟨c, columns, some .pooled⟩, p)

variable [Engine σ]

def execute (c : CompiledStatement) : Logged (Except DbError ExecResult × Pool π σ) := do
  let (result, store) ← Driver.execute p.store c
  return (result, p.withStore store)

/-- Executes a statement with the connection and gives the connection back. -/
def executeOnce (c : CompiledStatement) : Logged (Except DbError ExecResult × Pool π σ) := do
  let (result, p) ← p.execute c
  return (result, p.released)

/-- Fetches the one row of a query that was opened for it. -/
def fetchOpened (opened : Except DbError QueryResult × Pool π σ) :
    Logged (Except DbError Row × Pool π σ) := do
  match opened with
  | (.error e, p) => return (.error e, p)
  | (.ok r, p) =>
    let (row, _, p) ← r.fetchOne p
    return (row, p)

end Pool

/-- A query read and validated once. Its bindings last from run to run. -/
structure PreparedStatement where
  statement : Statement
  columns : List String
  timeout : Option Duration

namespace PreparedStatement

variable {π σ : Type} [Lending π] [Engine σ] (ps : PreparedStatement)

def bindNamed (name : String) (v : SqlValue) : PreparedStatement :=
  { ps with statement := ps.statement.bindNamed name v }

def bindNamedAll (bindings : Bindings) : PreparedStatement :=
  { ps with statement := ps.statement.bindNamedAll bindings }

def clearBindings : PreparedStatement := { ps with statement := ps.statement.clearBindings }

def exec (p : Pool π σ) : Logged (Except DbError ExecResult × Pool π σ) :=
  p.withCompiled ps.timeout ps.statement fun c lent => lent.executeOnce c

/-- Opens a result over the columns that were found when the statement was prepared. -/
def query (p : Pool π σ) : Logged (Except DbError QueryResult × Pool π σ) :=
  p.withCompiled ps.timeout ps.statement fun c lent => pure (lent.hold c ps.columns)

def queryRow (p : Pool π σ) : Logged (Except DbError Row × Pool π σ) := do
  Pool.fetchOpened (← ps.query p)

end PreparedStatement

/-- A transaction on the connection: its settings and what the engine kept when it began. -/
structure Transaction (σ : Type := Store) where
  config : DatabaseConfig
  begun : σ
  deriving DecidableEq

namespace Transaction

variable {π σ : Type} [Lending π] (t : Transaction σ)

def statement (query : String) : Logged Statement := Statement.ofQueryLogged t.config.style query

variable [Engine σ]

def exec (_t : Transaction σ) (s : Statement) (p : Pool π σ) :
    Logged (Except DbError ExecResult × Pool π σ) := do
  match ← s.compileLogged with
  | .error e => return (.error (.core e), p)
  | .ok c => p.execute c

/-- Opens a result that leaves the connection with the transaction. -/
def query (_t : Transaction σ) (s : Statement) (p : Pool π σ) :
    Logged (Except DbError QueryResult × Pool π σ) := do
  match ← s.compileLogged with
  | .error e => return (.error (.core e), p)
  | .ok c =>
    match Driver.describe p.store c.sql with
    | .error e => return (.error e, p)
    | .ok columns => return (.ok ⟨c, columns, some .borrowed⟩, p)

def queryRow (s : Statement) (p : Pool π σ) : Logged (Except DbError Row × Pool π σ) := do
  Pool.fetchOpened (← t.query s p)

/-- Dropping undoes a transaction without a word and gives the connection back. -/
def drop (p : Pool π σ) : Pool π σ :=
  (p.withStore (Engine.rollBack t.begun p.store).2).released

/-- Ends the transaction by a use of the connection. One that fails drops the transaction. -/
def finish (ended : Bool × σ) (report : Event) (p : Pool π σ) :
    Logged (Except DbError Unit × Pool π σ) := do
  if ended.1 then
    Logged.emit report
    return (.ok (), (p.withStore ended.2).released)
  else return (.error .driver, t.drop (p.withStore ended.2))

def commit (p : Pool π σ) : Logged (Except DbError Unit × Pool π σ) :=
  t.finish (Engine.commit p.store) .transactionCommitted p

def rollback (p : Pool π σ) : Logged (Except DbError Unit × Pool π σ) :=
  t.finish (Engine.rollBack t.begun p.store) .transactionRolledBack p

end Transaction

/-- A pool with settings for the statements run on it. -/
structure Database (π : Type := Lender) (σ : Type := Store) where
  pool : Pool π σ
  config : DatabaseConfig
  deriving DecidableEq

namespace Database

/-- Whether there is a database at a location: only in memory, without options. -/
def isReachable (url : String) : Bool := url == "sqlite::memory:"

def createTableText : String := "CREATE TABLE kv (k INTEGER PRIMARY KEY, v)"

def connect (config : DatabaseConfig) : Logged (Except DbError Database) := do
  if isReachable config.url then
    Logged.emit (.connected config.url config.maxConnections)
    return .ok ⟨.opened, config⟩
  else return .error .driver

variable {π σ : Type}

/-- The same pool with default settings. -/
def ofPool (p : Pool π σ) : Database π σ := ⟨p, default⟩

variable (db : Database π σ)

def withConfig (config : DatabaseConfig) : Database π σ := { db with config := config }

def withPool (p : Pool π σ) : Database π σ := { db with pool := p }

def statement (query : String) : Logged Statement := Statement.ofQueryLogged db.config.style query

/-- Reports the creation of the table, as the first statement of the connection. Its text is read
with default settings. -/
def reportTable : Logged Unit := do
  let s ← (ofPool db.pool).statement createTableText
  match ← s.compileLogged with
  | .ok c => Logged.emit (.executing c.sql c.args.length)
  | .error _ => pure ()

variable [Lending π] [Engine σ]

def exec (s : Statement) : Logged (Except DbError ExecResult × Pool π σ) :=
  db.pool.withCompiled db.config.timeout s fun c lent => lent.executeOnce c

/-- Validates a query and opens a result that holds the connection. -/
def query (s : Statement) : Logged (Except DbError QueryResult × Pool π σ) :=
  db.pool.withCompiled db.config.timeout s fun c lent =>
    match Driver.describe lent.store c.sql with
    | .error e => pure (.error e, lent.released)
    | .ok columns => pure (lent.hold c columns)

def queryRow (s : Statement) : Logged (Except DbError Row × Pool π σ) := do
  Pool.fetchOpened (← db.query s)

/-- Reads a query and has it validated, for any number of runs. -/
def prepare (query : String) : Logged (Except DbError PreparedStatement × Pool π σ) := do
  let s ← db.statement query
  db.pool.withConnection db.config.timeout fun lent => do
    match Driver.describe lent.store s.positionalSql with
    | .error e => return (.error e, lent.released)
    | .ok columns =>
      Logged.emit (.prepared s.positionalSql s.template.total)
      return (.ok ⟨s, columns, db.config.timeout⟩, lent.released)

/-- Takes the connection for a transaction, with no limit but the pool's. -/
def begin : Logged (Except DbError (Transaction σ) × Pool π σ) :=
  db.pool.withConnection none fun lent => do
    let (isBegun, store) := Engine.begin lent.store
    if isBegun then
      Logged.emit .transactionStarted
      return (.ok ⟨db.config, lent.store⟩, lent.withStore store)
    else return (.error .driver, (lent.withStore store).released)

end Database

end BoundQuery
