import BoundQuery.Event
import BoundQuery.Record.Basic
import BoundQuery.Row

/-!
# Routing columns to fields

Columns and fields are paired by position: column `i` goes to field `i` when that
field recognises its name, and is unmatched otherwise. A plan holds this
decision for a list of columns; decoding follows it row by row and stops at the
first value that its field refuses.
-/

namespace BoundQuery

structure ColumnPlan (T : RecordType) where
  targets : List (Option T.Index)

namespace ColumnPlan

variable {T : RecordType}

/-- The field at a position, if it recognises the column there. -/
def route (T : RecordType) (i : Nat) (column : String) : Option T.Index :=
  if h : i < T.fields.length then
    if T.fields[i].matches column then some ⟨i, h⟩ else none
  else none

def targetsFrom (T : RecordType) : Nat → List String → List (Option T.Index)
  | _, [] => []
  | i, column :: columns => route T i column :: targetsFrom T (i + 1) columns

def ofColumns (T : RecordType) (columns : List String) : ColumnPlan T :=
  ⟨targetsFrom T 0 columns⟩

variable (plan : ColumnPlan T)

/-- The field that column `i` goes to. -/
def target (i : Nat) : Option T.Index := plan.targets[i]?.join

def reportUnmatched (u : Unmatched) (column : String) (v : SqlValue) : Logged Unit :=
  match u with
  | .ignored => Logged.emit (.unmatchedColumn column v.kind)
  | _ => pure ()

/-- Decodes the columns from position `i` on into a record. -/
def decodeFrom : Nat → List (String × SqlValue) → Record T → Logged (Except Error (Record T))
  | _, [], r => pure (.ok r)
  | i, (column, v) :: rest, r =>
    match plan.target i with
    | some field =>
      match (T.fieldType field).decode column v with
      | .ok x => decodeFrom (i + 1) rest (r.set field x)
      | .error e => pure (.error e)
    | none => do
      reportUnmatched T.unmatched column v
      decodeFrom (i + 1) rest (r.addUnmatched column v)

/-- Decodes one row; values without a column and columns without a value are left out. -/
def decode (columns : List String) (values : List SqlValue) : Logged (Except Error (Record T)) :=
  plan.decodeFrom 0 (columns.zip values) (.initial T)

theorem route_eq_some_iff {i : Nat} {column : String} {field : T.Index} :
    route T i column = some field ↔ field.val = i ∧ (T.fields.get field).matches column = true := by
  unfold route
  constructor
  · intro h
    split at h
    · split at h
      · next hmatches =>
        cases h
        exact ⟨rfl, hmatches⟩
      · cases h
    · cases h
  · rintro ⟨rfl, hmatches⟩
    rw [dif_pos field.isLt]
    exact if_pos hmatches

theorem getElem?_targetsFrom (start i : Nat) (columns : List String) :
    (targetsFrom T start columns)[i]? = columns[i]?.map (route T (start + i)) := by
  induction columns generalizing start i with
  | nil => simp [targetsFrom]
  | cons column columns ih =>
    cases i with
    | zero => simp [targetsFrom]
    | succ i => simp [targetsFrom, ih, Nat.add_assoc, Nat.add_comm 1 i]

theorem target_ofColumns (columns : List String) (i : Nat) :
    (ofColumns T columns).target i = columns[i]?.bind (route T i) := by
  simp only [target, ofColumns, getElem?_targetsFrom, Nat.zero_add]
  cases columns[i]? <;> rfl

end ColumnPlan
end BoundQuery
