import BoundQuery.Cursor.ResultSet

/-!
# Calls on a result set

Any sequence of calls on one result set, as data. A dropped set answers nothing
and changes no more.
-/

namespace BoundQuery
namespace ResultSet

inductive Call where
  | columns
  | fetchAll
  | fetchOne
  | fetchTyped (T : RecordType)
  | close
  | drop

inductive Answer where
  | nothing
  | columns (names : List String)
  | rows (fetched : Fetched (List Row))
  | row (fetched : Fetched Row)
  | records (T : RecordType) (fetched : Fetched (List (Record T)))
  | closed (result : Except FetchError Unit)

def call (rs : ResultSet) (c : Call) : Logged (Answer × ResultSet) := do
  if rs.phase = .dropped then return (.nothing, rs)
  match c with
  | .columns => return (.columns rs.columns, rs)
  | .fetchAll => return (← rs.fetchAll).map .rows id
  | .fetchOne => return (← rs.fetchOne).map .row id
  | .fetchTyped T => return (← rs.fetchTyped T).map (.records T) id
  | .close => return (← rs.close).map .closed id
  | .drop => return (← rs.drop).map (fun _ => .nothing) id

/-- The set after a sequence of calls, with all that was logged. -/
def run (rs : ResultSet) : List Call → Logged ResultSet
  | [] => pure rs
  | c :: calls => do run (← rs.call c).2 calls

end ResultSet
end BoundQuery
