import BoundQuery.Ieee.Text
import BoundQuery.Text.Utf8

/-!
# Values

The closed set of kinds that can be bound to a parameter or read from a column.
Structural equality compares bit patterns; `equal` is the comparison of values,
under which kinds must agree and floats compare numerically. The literal of a
value is its form in diagnostic renderings of a query: text is quoted but not
escaped, so a rendering is for reading only.
-/

namespace BoundQuery

open Ieee (Single Double)

inductive SqlValue where
  | null
  | bool (b : Bool)
  | int8 (n : Int8)
  | int16 (n : Int16)
  | int32 (n : Int32)
  | int64 (n : Int64)
  | float32 (x : Single)
  | float64 (x : Double)
  | text (s : String)
  | bytes (b : List UInt8)
  deriving DecidableEq

/-- The kinds of value, as named in conversion errors. -/
inductive Kind where
  | null | bool | int8 | int16 | int32 | int64 | float32 | float64 | text | bytes
  deriving DecidableEq, Repr

def Kind.name : Kind → String
  | .null => "NULL"
  | .bool => "BOOL"
  | .int8 => "INT8"
  | .int16 => "INT16"
  | .int32 => "INT32"
  | .int64 => "INT64"
  | .float32 => "FLOAT32"
  | .float64 => "FLOAT64"
  | .text => "TEXT"
  | .bytes => "BYTES"

namespace SqlValue

instance : Inhabited SqlValue := ⟨.null⟩

def kind : SqlValue → Kind
  | .null => .null
  | .bool _ => .bool
  | .int8 _ => .int8
  | .int16 _ => .int16
  | .int32 _ => .int32
  | .int64 _ => .int64
  | .float32 _ => .float32
  | .float64 _ => .float64
  | .text _ => .text
  | .bytes _ => .bytes

def isNull (v : SqlValue) : Bool := v.kind == .null

@[simp] theorem isNull_iff (v : SqlValue) : v.isNull = true ↔ v = .null := by
  cases v <;> simp [isNull, kind]

def integer? : SqlValue → Option Int
  | .int8 n => some n.toInt
  | .int16 n => some n.toInt
  | .int32 n => some n.toInt
  | .int64 n => some n.toInt
  | _ => none

/-- Equality of values: floats compare numerically, all else exactly. -/
def equal : SqlValue → SqlValue → Bool
  | .float32 x, .float32 y => x.equal y
  | .float64 x, .float64 y => x.equal y
  | v, w => v == w

def hexDigit (n : Nat) : Char := (Nat.digitChar n).toUpper

def hexByte (b : UInt8) : List Char := [hexDigit (b.toNat / 16), hexDigit (b.toNat % 16)]

/-- The text that stands for this value in a rendered query. -/
def literal : SqlValue → String
  | .null => "NULL"
  | .bool b => if b then "TRUE" else "FALSE"
  | .int8 n => String.ofList (Text.showInt n.toInt)
  | .int16 n => String.ofList (Text.showInt n.toInt)
  | .int32 n => String.ofList (Text.showInt n.toInt)
  | .int64 n => String.ofList (Text.showInt n.toInt)
  | .float32 x => x.toText
  | .float64 x => x.toText
  | .text s => "'" ++ s ++ "'"
  | .bytes b => "X'" ++ String.ofList (b.flatMap hexByte) ++ "'"

example : (SqlValue.bytes [0x0a, 0xff]).literal = "X'0AFF'" := by decide +kernel

example : (SqlValue.int8 (-128)).literal = "-128" := by decide +kernel

end SqlValue
end BoundQuery
