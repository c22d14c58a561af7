import BoundQuery.SqlValue.Reading

/-!
# Record types

A record type lists its fields in order, each with a name, perhaps a column tag,
and a type, and says what becomes of columns that belong to no field. A record
of it holds one value for each field, of that field's type.
-/

namespace BoundQuery

/-- How a field recognises its column. -/
structure FieldMapping where
  name : String
  tag : Option String
  deriving DecidableEq, Repr

/-- Equality of names up to the case of ASCII letters. -/
def eqIgnoringCase (a b : String) : Bool :=
  a.toList.map Char.toLower == b.toList.map Char.toLower

/-- A field takes a column of its own name, in any ASCII case, or one that is exactly its tag. -/
def FieldMapping.matches (m : FieldMapping) (column : String) : Bool :=
  eqIgnoringCase m.name column || m.tag == some column

theorem FieldMapping.matches_iff {m : FieldMapping} {column : String} :
    m.matches column = true ↔
      m.name.toList.map Char.toLower = column.toList.map Char.toLower ∨ m.tag = some column := by
  simp [FieldMapping.matches, eqIgnoringCase]

structure Field extends FieldMapping where
  type : ColumnType
  deriving DecidableEq, Repr

/-- What a record does with the columns that belong to no field. -/
inductive Unmatched where
  | ignored
  /-- Collects columns and values under a field of this name. -/
  | collected (field : String)
  /-- Collects the columns' names under a field of this name. -/
  | named (field : String)
  deriving DecidableEq, Repr

/-- What a record keeps of its unmatched columns. -/
def Unmatched.Rest : Unmatched → Type
  | .ignored => Unit
  | .collected _ => List (String × SqlValue)
  | .named _ => List String

structure RecordType where
  fields : List Field
  unmatched : Unmatched
  deriving DecidableEq, Repr

namespace RecordType

variable (T : RecordType)

abbrev Index := Fin T.fields.length

def fieldType (i : T.Index) : ColumnType := T.fields[i].type

end RecordType

/-- A record of a type: its fields' values and what it keeps of unmatched columns. -/
@[ext] structure Record (T : RecordType) where
  field : (i : T.Index) → (T.fieldType i).Carrier
  rest : T.unmatched.Rest

namespace Unmatched

def noRest : (u : Unmatched) → u.Rest
  | .ignored => ()
  | .collected _ => ([] : List (String × SqlValue))
  | .named _ => ([] : List String)

def addTo : (u : Unmatched) → u.Rest → String → SqlValue → u.Rest
  | .ignored, rest, _, _ => rest
  | .collected _, rest, column, v => (show List (String × SqlValue) from rest) ++ [(column, v)]
  | .named _, rest, column, _ => (show List String from rest) ++ [column]

end Unmatched

namespace Record

variable {T : RecordType}

def initial (T : RecordType) : Record T := ⟨fun i => (T.fieldType i).default, T.unmatched.noRest⟩

def set (r : Record T) (i : T.Index) (x : (T.fieldType i).Carrier) : Record T :=
  { r with field := fun j => if h : j = i then h ▸ x else r.field j }

def addUnmatched (r : Record T) (column : String) (v : SqlValue) : Record T :=
  { r with rest := T.unmatched.addTo r.rest column v }

@[simp] theorem field_set_self (r : Record T) (i : T.Index) (x : (T.fieldType i).Carrier) :
    (r.set i x).field i = x := by
  simp [set]

theorem field_set_of_ne (r : Record T) {i j : T.Index} (h : j ≠ i) (x : (T.fieldType i).Carrier) :
    (r.set i x).field j = r.field j := by
  simp [set, h]

@[simp] theorem rest_set (r : Record T) (i : T.Index) (x : (T.fieldType i).Carrier) :
    (r.set i x).rest = r.rest := rfl

@[simp] theorem field_addUnmatched (r : Record T) (column : String) (v : SqlValue) :
    (r.addUnmatched column v).field = r.field := rfl

end Record
end BoundQuery
