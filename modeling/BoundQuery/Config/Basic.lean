import BoundQuery.Duration
import BoundQuery.Error
import BoundQuery.Template.Grammar
import BoundQuery.Text.Checked

/-!
# Settings

Settings for statements are their grammar; settings for a database add where it
is, how many connections it may hold and how long a statement may take. The
environment may set the place and the number of connections, which then has to
be a positive 32-bit integer.
-/

namespace BoundQuery

/-- Settings for statements. -/
structure BindConfig where
  style : Grammar
  deriving DecidableEq, Repr

/-- Names between colons. -/
instance : Inhabited BindConfig := ⟨⟨default⟩⟩

/-- Why a database call fails. -/
inductive DbError where
  /-- The database itself reported an error. -/
  | driver
  | core (e : Error)
  | timeout (limit : Duration)
  | config (text : String)
  deriving DecidableEq, Repr

/-- The message, unless it is the database's own. -/
def DbError.message? : DbError → Option String
  | .driver => none
  | .core e => some e.message
  | .timeout limit => some ("Statement timed out after " ++ limit.text)
  | .config text => some ("Invalid configuration: " ++ text)

structure DatabaseConfig where
  url : String
  maxConnections : Nat
  style : Grammar
  timeout : Option Duration
  deriving DecidableEq, Repr

namespace DatabaseConfig

/-- One connection to a database in memory, without a time limit. -/
instance : Inhabited DatabaseConfig := ⟨⟨"sqlite::memory:", 1, default, none⟩⟩

def ofUrl (url : String) : DatabaseConfig := { (default : DatabaseConfig) with url := url }

variable (c : DatabaseConfig)

def withMaxConnections (n : Nat) : DatabaseConfig := { c with maxConnections := n }

def withStyle (g : Grammar) : DatabaseConfig := { c with style := g }

def withTimeout (limit : Duration) : DatabaseConfig := { c with timeout := some limit }

def bindConfig : BindConfig := ⟨c.style⟩

/-- A positive 32-bit integer with white space around it. -/
def readPoolSize? (text : String) : Option Nat :=
  ((Text.readUInt32? (Text.trim text.toList)).filter fun n => 0 < n).map UInt32.toNat

/-- The default settings changed by the two variables, each of which may be unset. -/
def ofEnvironment (url poolSize : Option String) : Except DbError DatabaseConfig :=
  let config := ofUrl (url.getD (default : DatabaseConfig).url)
  match poolSize with
  | none => .ok config
  | some text =>
    match readPoolSize? text with
    | some n => .ok (config.withMaxConnections n)
    | none =>
      .error (.config
        ("NAMEDSQL_MAX_CONNECTIONS must be a positive integer, got '" ++ text ++ "'"))

end DatabaseConfig
end BoundQuery
