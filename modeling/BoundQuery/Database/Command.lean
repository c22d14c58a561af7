import BoundQuery.Database.Token
import BoundQuery.SqlValue.Reading

/-!
# SQL commands

The commands that the store understands: one table `kv` of an integer key `k` and
a value `v` is written and read, and constants are selected. Keywords and names
are read in any case, and semicolons around a command are dropped. Any other
text is not a command, nor is one with too many arguments, columns or rows.
-/

namespace BoundQuery

/-- A value that a command is given: bound to an argument or written in its text. -/
inductive Operand where
  | argument (i : Nat)
  | constant (v : SqlValue)
  deriving DecidableEq

/-- What a selected column is computed from. -/
inductive Expr where
  | operand (o : Operand)
  | key
  | value
  /-- The value, but an overflow error for keys from the limit on. -/
  | guardedValue (limit : Operand)
  deriving DecidableEq

/-- A selected column: what it holds, its name, and whether the name was given to it. -/
structure Item where
  expr : Expr
  name : String
  isNamed : Bool
  deriving DecidableEq

/-- Which rows a command is about. -/
inductive Condition where
  | all
  | keyIs (key : Operand)
  | keyFrom (limit : Operand)
  deriving DecidableEq

inductive Command where
  | insert (key : Option Operand) (value : Operand)
  | update (value : Operand) (condition : Condition)
  | delete (condition : Condition)
  | select (items : List Item) (condition : Condition) (order : Expr)
  | count (name : String)
  | constants (rows : List (List Item))
  /-- A text of no tokens. -/
  | nothing
  deriving DecidableEq

namespace Command

open Token (skip?)

/-- The guarded value, whose limit stands between these two texts. -/
def guardBefore : String := "CASE WHEN k >="

def guardAfter : String := "THEN abs((k - k) - 9223372036854775807 - 1) ELSE v END"

def writtenText (s : String) : String := "'" ++ s.replace "'" "''" ++ "'"

/-- The value of a number in a command: an integer if it fits 64 bits, else a double. -/
def readNumber? (digits : String) : Option SqlValue :=
  match (Text.readInt? digits.toList).filter (SqlValue.inRange 64) with
  | some n => some (.int64 (Int64.ofInt n))
  | none => (Ieee.Number.read? .double digits.toList).map .float64

/-- What one token stands for as a value, and how it is written. -/
def readOperand? : Token → Option (Operand × String)
  | .argument i => some (.argument i, "?")
  | .text s => some (.constant (.text s), writtenText s)
  | .number digits => (readNumber? digits).map fun v => (.constant v, digits)
  | .word w => if w.toLower = "null" then some (.constant .null, w) else none
  | _ => none

/-- A value and what follows it. -/
def takeOperand? : List Token → Option (Operand × List Token)
  | [] => none
  | t :: ts => (readOperand? t).map fun operand => (operand.1, ts)

def readGuarded? (ts : List Token) : Option (Expr × List Token) := do
  let (limit, ts) ← takeOperand? (← skip? guardBefore ts)
  some (.guardedValue limit, ← skip? guardAfter ts)

/-- A column expression, the name that it has of itself, and what follows it. -/
def readExpr? (ts : List Token) : Option (Expr × String × List Token) :=
  match readGuarded? ts, skip? "k" ts, skip? "v" ts, ts with
  | some (expr, rest), _, _, _ => some (expr, "v", rest)
  | _, some rest, _, _ => some (.key, "k", rest)
  | _, _, some rest, _ => some (.value, "v", rest)
  | _, _, _, t :: rest => (readOperand? t).map fun operand => (.operand operand.1, operand.2, rest)
  | _, _, _, [] => none

/-- The name given to what comes before, with or without AS. Without one nothing is read. -/
def readName? (ts : List Token) : Option (Option String × List Token) :=
  match skip? "AS" ts, ts with
  | some [], _ => none
  | some (t :: rest), _ => t.name?.map fun name => (some name, rest)
  | none, [] => some (none, [])
  | none, t :: rest =>
    match t.bareName? with
    | some name => some (some name, rest)
    | none => some (none, t :: rest)

def readItem? (ts : List Token) : Option (Item × List Token) := do
  let (expr, ownName, ts) ← readExpr? ts
  let (name, ts) ← readName? ts
  some (⟨expr, name.getD ownName, name.isSome⟩, ts)

/-- One or more columns with commas between them. -/
def readItems? : (fuel : Nat) → List Token → Option (List Item × List Token)
  | 0, _ => none
  | fuel + 1, ts => do
    let (item, ts) ← readItem? ts
    match ts with
    | .symbol "," :: ts =>
      let (items, ts) ← readItems? fuel ts
      some (item :: items, ts)
    | ts => some ([item], ts)

/-- A condition on the key, or none. -/
def readCondition? (ts : List Token) : Option (Condition × List Token) :=
  match skip? "WHERE k" ts with
  | none => some (.all, ts)
  | some ts =>
    match (skip? ">=" ts).bind takeOperand?, (skip? "=" ts).bind takeOperand? with
    | some (limit, rest), _ => some (.keyFrom limit, rest)
    | _, some (key, rest) => some (.keyIs key, rest)
    | _, _ => none

/-- Whether these columns need no row. -/
def areConstant (items : List Item) : Bool :=
  items.all fun item => match item.expr with
    | .operand _ => true
    | _ => false

/-- The further rows of constants, of as many columns as the first. -/
def readUnion? (width : Nat) : (fuel : Nat) → List Token → Option (List (List Item))
  | _, [] => some []
  | 0, _ :: _ => none
  | fuel + 1, ts => do
    let ts ← skip? "UNION ALL SELECT" ts
    let (items, ts) ← readItems? ts.length ts
    if areConstant items && items.length == width then (readUnion? width fuel ts).map (items :: ·)
    else none

/-- What ordering by `k` orders by: the first column given that name, else the key. -/
def orderBy (items : List Item) : Expr :=
  ((items.find? fun item => item.isNamed && item.name.toLower == "k").map Item.expr).getD .key

/-- What follows the table, which may be given another name. -/
def afterTable? (ts : List Token) : Option (List Token) := do
  let (_, ts) ← readName? (← skip? "FROM kv" ts)
  some ts

def countName : List Token → String
  | .word w :: _ => w ++ "(*)"
  | _ => ""

def readCount? (ownName : String) (ts : List Token) : Option Command := do
  let (name, ts) ← readName? ts
  match ← afterTable? ts with
  | [] => some (.count (name.getD ownName))
  | _ => none

def readSelect? (ts : List Token) : Option Command := do
  match skip? "COUNT(*)" ts with
  | some rest => readCount? (countName ts) rest
  | none =>
    let (items, ts) ← readItems? ts.length ts
    match afterTable? ts with
    | some ts =>
      let (condition, ts) ← readCondition? ts
      match ts, skip? "ORDER BY k" ts with
      | [], _ => some (.select items condition .key)
      | _, some [] => some (.select items condition (orderBy items))
      | _, _ => none
    | none =>
      if areConstant items then
        (readUnion? items.length ts.length ts).map fun rows => .constants (items :: rows)
      else none

/-- The last value of a list in parentheses, with nothing after it. -/
def readLast? (ts : List Token) : Option Operand :=
  match takeOperand? ts with
  | some (operand, [.symbol ")"]) => some operand
  | _ => none

def readInsert? (ts : List Token) : Option Command :=
  match skip? "(v) VALUES (" ts with
  | some ts => (readLast? ts).map fun value => .insert none value
  | none => do
    let (key, ts) ← takeOperand? (← skip? "(k, v) VALUES (" ts)
    let value ← readLast? (← skip? "," ts)
    some (.insert (some key) value)

def readUpdate? (ts : List Token) : Option Command := do
  let (value, ts) ← takeOperand? ts
  match readCondition? ts with
  | some (condition, []) => some (.update value condition)
  | _ => none

def readDelete? (ts : List Token) : Option Command :=
  match readCondition? ts with
  | some (condition, []) => some (.delete condition)
  | _ => none

/-- The command that these tokens are. -/
def ofTokens? (ts : List Token) : Option Command :=
  match skip? "SELECT" ts, skip? "INSERT INTO kv" ts, skip? "UPDATE kv SET v =" ts,
      skip? "DELETE FROM kv" ts with
  | some ts, _, _, _ => readSelect? ts
  | _, some ts, _, _ => readInsert? ts
  | _, _, some ts, _ => readUpdate? ts
  | _, _, _, some ts => readDelete? ts
  | _, _, _, _ => if ts.isEmpty then some .nothing else none

def isSemicolon (t : Token) : Bool := t == .symbol ";"

def mostArguments : Nat := 32766

def mostColumns : Nat := 2000

def mostConstantRows : Nat := 500

def isArgument : Token → Bool
  | .argument _ => true
  | _ => false

/-- Whether a command has no more columns and rows than it can have. -/
def isWithinLimits : Command → Bool
  | .select items _ _ => items.length ≤ mostColumns
  | .constants rows =>
    rows.length ≤ mostConstantRows && rows.all fun items => items.length ≤ mostColumns
  | _ => true

def ofText? (sql : String) : Option Command := do
  let ts ← Token.ofText? sql
  if mostArguments < ts.countP isArgument then none
  else
    (ofTokens? (((ts.dropWhile isSemicolon).reverse.dropWhile isSemicolon).reverse)).filter
      isWithinLimits

/-- The columns of a command's rows; a command that writes has none. -/
def columns : Command → List String
  | .select items _ _ => items.map Item.name
  | .count name => [name]
  | .constants (items :: _) => items.map Item.name
  | _ => []

end Command

example :
    Command.ofText? "INSERT INTO kv (k, v) VALUES (?, ?)" =
      some (.insert (some (.argument 0)) (.argument 1)) := by
  decide +kernel

example :
    Command.ofText? "SELECT ? AS a, '?' AS b UNION ALL SELECT ?, ?" =
      some (.constants
        [[⟨.operand (.argument 0), "a", true⟩, ⟨.operand (.constant (.text "?")), "b", true⟩],
          [⟨.operand (.argument 1), "?", false⟩, ⟨.operand (.argument 2), "?", false⟩]]) := by
  decide +kernel

example : Command.ofText? "SELECT nope FROM kv" = none := by decide +kernel

end BoundQuery
