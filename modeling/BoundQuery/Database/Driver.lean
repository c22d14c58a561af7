import BoundQuery.Config.Basic
import BoundQuery.SqlValue.Basic

/-!
# The driver

Arguments go to the database and columns come back from it through a driver that
has a codec for each machine type. Binding keeps the width of a value. The
database keeps five kinds of value only, so a column is decoded by its storage
class and not by the type that was once bound.
-/

namespace BoundQuery

open Ieee (Single Double)

/-- The arguments of a driver: what it encodes a value of each machine type to. -/
class ArgumentCodec (α : Type) where
  /-- An integer of 64 bits that is not there. -/
  null : α
  bool : Bool → α
  int8 : Int8 → α
  int16 : Int16 → α
  int32 : Int32 → α
  int64 : Int64 → α
  single : Single → α
  double : Double → α
  text : String → α
  blob : List UInt8 → α

/-- The columns of a driver: what it tells of one and how it decodes one as a machine type, which
may fail. -/
class ColumnCodec (ρ : Type) where
  isNull : ρ → Bool
  /-- The name of the storage class. -/
  className : ρ → String
  bool? : ρ → Option Bool
  int64? : ρ → Option Int64
  double? : ρ → Option Double
  text? : ρ → Option String
  blob? : ρ → Option (List UInt8)

/-- Binds a value at its own width. -/
def bindValue {α : Type} [ArgumentCodec α] : SqlValue → α
  | .null => ArgumentCodec.null
  | .bool b => ArgumentCodec.bool b
  | .int8 n => ArgumentCodec.int8 n
  | .int16 n => ArgumentCodec.int16 n
  | .int32 n => ArgumentCodec.int32 n
  | .int64 n => ArgumentCodec.int64 n
  | .float32 x => ArgumentCodec.single x
  | .float64 x => ArgumentCodec.double x
  | .text s => ArgumentCodec.text s
  | .bytes b => ArgumentCodec.blob b

def bindArgs {α : Type} [ArgumentCodec α] (args : List SqlValue) : List α := args.map bindValue

section Columns

variable {ρ : Type} [ColumnCodec ρ]

/-- Decodes a column by its storage class. A class of no other type is decoded as text. -/
def decodeColumn? (c : ρ) : Option SqlValue :=
  if ColumnCodec.isNull c then some .null
  else
    match ColumnCodec.className c with
    | "INTEGER" => (ColumnCodec.int64? c).map .int64
    | "REAL" => (ColumnCodec.double? c).map .float64
    | "BLOB" => (ColumnCodec.blob? c).map .bytes
    | "BOOLEAN" => (ColumnCodec.bool? c).map .bool
    | _ => (ColumnCodec.text? c).map .text

/-- Decodes a row into a buffer, slot by slot. The first column that is not there or does not decode
ends it, and the slots from that one on stay as they were. -/
def decodeRow : (row : List ρ) → (buffer : List SqlValue) → Except DbError Unit × List SqlValue
  | _, [] => (.ok (), [])
  | [], buffer => (.error .driver, buffer)
  | c :: row, slot :: buffer =>
    match decodeColumn? c with
    | none => (.error .driver, slot :: buffer)
    | some v =>
      let (result, later) := decodeRow row buffer
      (result, v :: later)

theorem length_decodeRow (row : List ρ) (buffer : List SqlValue) :
    (decodeRow row buffer).2.length = buffer.length := by
  induction buffer generalizing row with
  | nil => cases row <;> rfl
  | cons slot buffer ih =>
    cases row with
    | nil => rfl
    | cons c row =>
      cases hc : decodeColumn? c with
      | none => simp [decodeRow, hc]
      | some v => simp [decodeRow, hc, ih]

/-- Whether a row decodes depends on how many slots there are, and not on what they hold. A row that
does fills each of them. -/
theorem decodeRow_congr (row : List ρ) {buffer buffer' : List SqlValue}
    (h : buffer'.length = buffer.length) :
    (decodeRow row buffer').1 = (decodeRow row buffer).1 ∧
      ((decodeRow row buffer).1 = .ok () → (decodeRow row buffer').2 = (decodeRow row buffer).2) := by
  induction buffer generalizing row buffer' with
  | nil =>
    obtain rfl := List.length_eq_zero_iff.1 h
    exact ⟨rfl, fun _ => rfl⟩
  | cons slot buffer ih =>
    obtain ⟨slot', buffer', rfl⟩ := List.exists_cons_of_length_eq_add_one h
    have hlength : buffer'.length = buffer.length := Nat.succ.inj h
    cases row with
    | nil => exact ⟨rfl, fun hok => nomatch hok⟩
    | cons c row =>
      cases hc : decodeColumn? c with
      | none => simp [decodeRow, hc]
      | some v =>
        obtain ⟨hresult, hvalues⟩ := ih row hlength
        simp only [decodeRow, hc]
        exact ⟨hresult, fun hok => congrArg _ (hvalues hok)⟩

theorem eq_driver_of_decodeRow {row : List ρ} {buffer : List SqlValue} {e : DbError}
    (h : (decodeRow row buffer).1 = .error e) : e = .driver := by
  induction buffer generalizing row with
  | nil => cases row <;> cases h
  | cons slot buffer ih =>
    cases row with
    | nil => exact (Except.error.inj h).symm
    | cons c row =>
      cases hc : decodeColumn? c with
      | none =>
        simp only [decodeRow, hc] at h
        exact (Except.error.inj h).symm
      | some v =>
        simp only [decodeRow, hc] at h
        exact ih h

end Columns

/-- What the database keeps for a value: null, or a value of one of the four storage classes. -/
inductive Storage where
  | null
  | integer (n : Int64)
  | real (x : Double)
  | text (s : String)
  | blob (b : List UInt8)
  deriving DecidableEq

namespace Storage

/-- Integers and truth values are kept as 64-bit integers, floats in double precision and a NaN as
null. -/
instance : ArgumentCodec Storage where
  null := .null
  bool b := .integer (if b then 1 else 0)
  int8 n := .integer n.toInt64
  int16 n := .integer n.toInt64
  int32 n := .integer n.toInt64
  int64 := .integer
  single x := if x.isNaN then .null else .real x.convert
  double x := if x.isNaN then .null else .real x
  text := .text
  blob := .blob

/-- A column tells its class and decodes as the type of that class. -/
instance : ColumnCodec Storage where
  isNull c := c = .null
  className
    | .null => "NULL"
    | .integer _ => "INTEGER"
    | .real _ => "REAL"
    | .text _ => "TEXT"
    | .blob _ => "BLOB"
  bool?
    | .integer n => some (n ≠ 0)
    | _ => none
  int64?
    | .integer n => some n
    | _ => none
  double?
    | .real x => some x
    | _ => none
  text?
    | .text s => some s
    | _ => none
  blob?
    | .blob b => some b
    | _ => none

def value : Storage → SqlValue
  | .null => .null
  | .integer n => .int64 n
  | .real x => .float64 x
  | .text s => .text s
  | .blob b => .bytes b

end Storage
end BoundQuery
