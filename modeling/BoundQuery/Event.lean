import BoundQuery.SqlValue.Basic

/-!
# Log events

What the library reports while it works. An event carries data; its level,
message and fields are read off it. A logged computation is a value together
with the events that computing it gave rise to, in order.
-/

namespace BoundQuery

inductive Level where
  | trace | debug | info | warn
  deriving DecidableEq, Repr

def Level.name : Level → String
  | .trace => "TRACE"
  | .debug => "DEBUG"
  | .info => "INFO"
  | .warn => "WARN"

inductive Event where
  /-- A query was read: its occurrences and its distinct names. -/
  | indexed (total distinct : Nat)
  /-- A statement compiled to this text with so many arguments. -/
  | compiled (sql : String) (args : Nat)
  /-- A decoded column belongs to no field of its record. -/
  | unmatchedColumn (column : String) (kind : Kind)
  /-- A cursor that was given up failed to close. -/
  | closeFailed (cause : String)
  | connected (url : String) (maxConnections : Nat)
  | executing (sql : String) (args : Nat)
  | runningQuery (sql : String) (args : Nat)
  | runningSingleRowQuery (sql : String) (args : Nat)
  | prepared (sql : String) (params : Nat)
  | transactionStarted
  | transactionCommitted
  | transactionRolledBack
  deriving DecidableEq, Repr

namespace Event

def level : Event → Level
  | .indexed .. => .trace
  | .unmatchedColumn .. => .trace
  | .closeFailed .. => .warn
  | .connected .. => .info
  | _ => .debug

def message : Event → String
  | .indexed .. => "Indexed named parameters"
  | .compiled .. => "Compiled statement"
  | .unmatchedColumn .. => "Column has no matching field"
  | .closeFailed .. => "Failed to close row cursor"
  | .connected .. => "Connected to database"
  | .executing .. => "Executing statement"
  | .runningQuery .. => "Running query"
  | .runningSingleRowQuery .. => "Running single-row query"
  | .prepared .. => "Prepared statement"
  | .transactionStarted => "Transaction started"
  | .transactionCommitted => "Transaction committed"
  | .transactionRolledBack => "Transaction rolled back"

def fields : Event → List (String × String)
  | .indexed total distinct => [("total", toString total), ("distinct", toString distinct)]
  | .compiled sql args => [("sql", sql), ("args", toString args)]
  | .unmatchedColumn column kind => [("column", column), ("kind", kind.name)]
  | .closeFailed cause => [("error", cause)]
  | .connected url maxConnections =>
    [("url", url), ("max_connections", toString maxConnections)]
  | .executing sql args => [("sql", sql), ("args", toString args)]
  | .runningQuery sql args => [("sql", sql), ("args", toString args)]
  | .runningSingleRowQuery sql args => [("sql", sql), ("args", toString args)]
  | .prepared sql params => [("sql", sql), ("params", toString params)]
  | .transactionStarted => []
  | .transactionCommitted => []
  | .transactionRolledBack => []

end Event

/-- A value and the events on the way to it. -/
@[ext] structure Logged (α : Type) where
  value : α
  events : List Event
  deriving DecidableEq

namespace Logged

variable {α β : Type}

instance : Monad Logged where
  pure a := ⟨a, []⟩
  bind x f := ⟨(f x.value).value, x.events ++ (f x.value).events⟩

def emit (e : Event) : Logged Unit := ⟨(), [e]⟩

@[simp] theorem value_pure (a : α) : (pure a : Logged α).value = a := rfl

@[simp] theorem events_pure (a : α) : (pure a : Logged α).events = [] := rfl

@[simp] theorem value_bind (x : Logged α) (f : α → Logged β) :
    (x >>= f).value = (f x.value).value := rfl

@[simp] theorem events_bind (x : Logged α) (f : α → Logged β) :
    (x >>= f).events = x.events ++ (f x.value).events := rfl

@[simp] theorem value_emit (e : Event) : (emit e).value = () := rfl

@[simp] theorem events_emit (e : Event) : (emit e).events = [e] := rfl

end Logged
end BoundQuery
