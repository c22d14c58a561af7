import BoundQuery.Error
import BoundQuery.SqlValue.Basic

/-!
# Scripted cursors

A cursor hands out rows one at a time, forward only. A script says what each of
its reads does: the rows in order, the read that never finishes, the read that
fails, and whether closing fails. Reads are numbered by the rows handed out
before them.
-/

namespace BoundQuery

/-- A cursor's whole behaviour. -/
structure Script where
  columns : List String
  rows : List (List SqlValue)
  failAt : Option Nat
  pendAt : Option Nat
  failClose : Bool
  deriving DecidableEq

/-- What one read comes to. -/
inductive Read where
  | pending
  | failed
  | exhausted
  | row (values : List SqlValue) (rest : List (List SqlValue))

/-- The read after `at` rows, of which `rest` are left. -/
def Script.read (s : Script) (done : Nat) (rest : List (List SqlValue)) : Read :=
  if s.pendAt = some done then .pending
  else if s.failAt = some done then .failed
  else
    match rest with
    | [] => .exhausted
    | values :: rest => .row values rest

/-- Writes a row over a buffer with one slot for each column. A short row leaves the slots behind
it as they were and a long one is cut. -/
def overwrite : (buffer row : List SqlValue) → List SqlValue
  | [], _ => []
  | buffer, [] => buffer
  | _ :: buffer, v :: row => v :: overwrite buffer row

@[simp] theorem overwrite_nil (buffer : List SqlValue) : overwrite buffer [] = buffer := by
  cases buffer <;> rfl

theorem length_overwrite (buffer row : List SqlValue) :
    (overwrite buffer row).length = buffer.length := by
  induction buffer generalizing row with
  | nil => rfl
  | cons v buffer ih => cases row <;> simp [overwrite, ih]

theorem getElem?_overwrite (buffer row : List SqlValue) (i : Nat) :
    (overwrite buffer row)[i]? = buffer[i]?.map fun v => row[i]?.getD v := by
  induction buffer generalizing row i with
  | nil => simp [overwrite]
  | cons v buffer ih =>
    cases row with
    | nil => simp
    | cons w row => cases i <;> simp [overwrite, ih]

theorem overwrite_eq (buffer row : List SqlValue) :
    overwrite buffer row = row.take buffer.length ++ buffer.drop row.length := by
  induction buffer generalizing row with
  | nil => simp [overwrite]
  | cons v buffer ih => cases row <;> simp [overwrite, ih]

end BoundQuery
