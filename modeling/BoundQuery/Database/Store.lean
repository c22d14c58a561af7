import BoundQuery.Cursor.Script
import BoundQuery.Database.Command
import BoundQuery.Database.Driver
import BoundQuery.Database.Key

/-!
# The store

What one connection to the database keeps: the rows of its table by ascending
key, the key of its newest insertion and the count of its last write. An argument
is kept as the driver binds it. A command that fails changes no row.
-/

namespace BoundQuery

namespace SqlValue

/-- The value that the store keeps for a bound one. -/
def stored (v : SqlValue) : SqlValue := (bindValue v : Storage).value

end SqlValue

/-- The rows of the table, by ascending key. -/
abbrev Table := List (Int × SqlValue)

namespace Table

def hasKey (t : Table) (key : Int) : Bool := t.any fun row => row.1 == key

/-- The greatest key that a row can have. -/
def greatestKey : Int := Int64.maxValue.toInt

/-- The first key without a row, from the given one on. Of one key more than there are rows, one is
without a row. -/
def freeKeyFrom (t : Table) (start : Int) : Int :=
  let taken := (List.range t.length).takeWhile fun (i : Nat) => t.hasKey (start + Int.ofNat i)
  start + Int.ofNat taken.length

/-- The key of a row that is given none: one above the highest key, or one in an empty table. There
is none above the greatest key; beside that row any free key will do, and one is taken far from
both ends of the positive keys. -/
def nextKey (t : Table) : Int :=
  match t.getLast? with
  | none => 1
  | some row => if row.1 < greatestKey then row.1 + 1 else t.freeKeyFrom (greatestKey / 4)

def insert (key : Int) (v : SqlValue) : Table → Table
  | [] => [(key, v)]
  | row :: rest => if key < row.1 then (key, v) :: row :: rest else row :: insert key v rest

example : nextKey [(-5, .null)] = -4 := by decide +kernel

example : nextKey [(greatestKey / 4, .null), (greatestKey, .null)] = greatestKey / 4 + 1 := by
  decide +kernel

end Table

structure Store where
  rows : Table
  lastInsertId : Int
  changes : Nat
  deriving DecidableEq

/-- What running a command comes to: the rows it yields one by one, the read that fails, and the
store afterwards. -/
structure Execution where
  rows : List (List SqlValue)
  failAt : Option Nat
  store : Store

namespace Store

def empty : Store := ⟨[], 0, 0⟩

variable (s : Store)

/-- A command whose write succeeds. -/
def written (rows : Table) (changes : Nat) : Execution :=
  ⟨[], none, { s with rows := rows, changes := changes }⟩

/-- A command whose write fails; the count of the last write is then zero. -/
def refused : Execution := ⟨[], some 0, { s with changes := 0 }⟩

/-- A command that reads all of these rows. -/
def selected (rows : List (List SqlValue)) : Execution := ⟨rows, none, s⟩

end Store

/-- The value of an operand; an argument without a value is null. -/
def Operand.eval (args : List SqlValue) : Operand → SqlValue
  | .argument i => args[i]?.getD .null
  | .constant v => v

namespace Condition

/-- Whether the row with a key is among those asked for. -/
def holds (args : List SqlValue) (key : Int) : Condition → Bool
  | .all => true
  | .keyIs o => keyOf? (o.eval args) == some key
  | .keyFrom o => (compareKey? key (o.eval args)).any fun order => order != .lt

end Condition

namespace Expr

/-- The value of an expression on a row, unless computing it overflows. -/
def eval? (args : List SqlValue) (row : Int × SqlValue) : Expr → Option SqlValue
  | .operand o => some (o.eval args)
  | .key => some (.int64 (Int64.ofInt row.1))
  | .value => some row.2
  | .guardedValue limit =>
    if Condition.holds args row.1 (.keyFrom limit) then none else some row.2

end Expr

/-- The columns of a row, unless computing one of them overflows. -/
def evalItems? (args : List SqlValue) (items : List Item) (row : Int × SqlValue) :
    Option (List SqlValue) :=
  items.mapM fun item => item.expr.eval? args row

/-- The rows by ascending order of what the expression is on them, unless computing it overflows on
one. Rows by the key are in order already. -/
def sortRows? (args : List SqlValue) (order : Expr) (rows : Table) : Option Table :=
  if order = .key then some rows
  else do
    let keyed ← rows.mapM fun row => (order.eval? args row).map fun v => (v, row)
    some ((keyed.mergeSort fun a b => a.1.isUpTo b.1).map Prod.snd)

namespace Command

/-- The rows up to the first that cannot be computed, and its number. -/
def yieldRows (args : List SqlValue) (items : List Item) :
    Table → List (List SqlValue) × Option Nat
  | [] => ([], none)
  | row :: rest =>
    match evalItems? args items row with
    | none => ([], some 0)
    | some values =>
      let later := yieldRows args items rest
      (values :: later.1, later.2.map (· + 1))

def run (args : List SqlValue) (s : Store) : Command → Execution
  | .insert key value =>
    let wanted := key.elim .null (·.eval args)
    let free := if wanted.isNull then some s.rows.nextKey else
      (keyOf? wanted).filter fun n => !s.rows.hasKey n
    match free with
    | none => s.refused
    | some n => ⟨[], none, ⟨s.rows.insert n (value.eval args), n, 1⟩⟩
  | .update value condition =>
    let isMeant (row : Int × SqlValue) := condition.holds args row.1
    s.written
      (s.rows.map fun row => if isMeant row then (row.1, value.eval args) else row)
      (s.rows.countP isMeant)
  | .delete condition =>
    let isMeant (row : Int × SqlValue) := condition.holds args row.1
    s.written (s.rows.filter fun row => !isMeant row) (s.rows.countP isMeant)
  | .select items condition order =>
    let meant := s.rows.filter fun row => condition.holds args row.1
    match sortRows? args order meant with
    | none => ⟨[], some 0, s⟩
    | some sorted =>
      let (rows, failAt) := yieldRows args items sorted
      ⟨rows, failAt, s⟩
  | .count _ => s.selected [[.int64 (Int64.ofNat s.rows.length)]]
  | .constants rows =>
    s.selected (rows.map fun items => (evalItems? args items (0, .null)).getD [])
  | .nothing => s.selected []

end Command
end BoundQuery
