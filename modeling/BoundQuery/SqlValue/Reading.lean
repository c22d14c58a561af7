import BoundQuery.Ieee.Truncation
import BoundQuery.SqlValue.Basic
import BoundQuery.Text.Blank
import BoundQuery.Text.Checked

/-!
# Reading values as types

A column type reads the kinds in its coercion set and refuses all others. Byte
buffers are read as text, never as a binary encoding: numbers and truth values
as their words with white space around them, strings as they are. Integers come
from floats by truncation and are refused outside their range; a nullable type
reads null as nothing and all else as its content type does.
-/

namespace BoundQuery

open Ieee (Number Single Double)

namespace SqlValue

/-- The text of a byte buffer without white space at its ends. -/
def trimmedText? : SqlValue → Option (List Char)
  | .bytes b => (Text.decode? b).map fun s => Text.trim s.toList
  | _ => none

/-- The integers of a width that counts `bits` bits, sign included. -/
def inRange (bits : Nat) (n : Int) : Bool :=
  let limit : Int := (Nat.pow 2 (bits - 1) : Nat)
  n < limit && -limit ≤ n

theorem inRange_iff {bits : Nat} {n : Int} : inRange bits n = true ↔
    -((Nat.pow 2 (bits - 1) : Nat) : Int) ≤ n ∧ n < (Nat.pow 2 (bits - 1) : Nat) := by
  simp only [inRange, Bool.and_eq_true, decide_eq_true_eq]
  exact and_comm

theorem map_toInt_eq_filter {o : Option Int64} {p : Option Int}
    (h : ∀ n : Int64, o = some n ↔ p = some n.toInt) : o.map Int64.toInt = p.filter (inRange 64) := by
  apply Option.ext
  intro n
  rw [Option.map_eq_some_iff, Option.filter_eq_some_iff]
  constructor
  · rintro ⟨m, hm, rfl⟩
    exact ⟨(h m).1 hm, inRange_iff.2 ⟨m.le_toInt, m.toInt_lt⟩⟩
  · rintro ⟨hread, hrange⟩
    obtain ⟨hlow, hhigh⟩ := inRange_iff.1 hrange
    have hback : (Int64.ofInt n).toInt = n := Int64.toInt_ofInt_of_le hlow hhigh
    exact ⟨Int64.ofInt n, (h _).2 (hback.symm ▸ hread), hback⟩

/-- Reads an integer of up to 64 bits, before any narrowing. -/
def readInt? : SqlValue → Option Int
  | .float32 x => (x.convert : Double).toInt64?.map Int64.toInt
  | .float64 x => x.toInt64?.map Int64.toInt
  | .bytes b => ((trimmedText? (.bytes b)).bind Text.readInt64?).map Int64.toInt
  | v => v.integer?

theorem readInt?_bytes (b : List UInt8) : (SqlValue.bytes b).readInt? =
    ((trimmedText? (.bytes b)).bind Text.readInt?).filter (inRange 64) := by
  apply map_toInt_eq_filter
  intro n
  simp only [Option.bind_eq_some_iff, Text.readInt64?_eq_some_iff]

def readInt64? (v : SqlValue) : Option Int64 := v.readInt?.map Int64.ofInt

def readInt32? (v : SqlValue) : Option Int32 := (v.readInt?.filter (inRange 32)).map Int32.ofInt

def readInt16? (v : SqlValue) : Option Int16 := (v.readInt?.filter (inRange 16)).map Int16.ofInt

def readInt8? (v : SqlValue) : Option Int8 := (v.readInt?.filter (inRange 8)).map Int8.ofInt

def readFloat64? : SqlValue → Option Double
  | .float32 x => some x.convert
  | .float64 x => some x
  | .bytes b => (trimmedText? (.bytes b)).bind (Number.read? .double)
  | v => v.integer?.map Number.ofInt

def readFloat32? : SqlValue → Option Single
  | .float32 x => some x
  | .float64 x => some x.convert
  | .bytes b => (trimmedText? (.bytes b)).bind (Number.read? .single)
  | v => v.integer?.map Number.ofInt

/-- The two words of truth in any ASCII case, else an integer of at most 64 bits. -/
def readTruth? (cs : List Char) : Option Bool :=
  let word := String.ofList (cs.map Char.toLower)
  if word = "true" then some true
  else if word = "false" then some false
  else (Text.readInt64? cs).map (· ≠ 0)

theorem map_ne_zero_readInt64? (cs : List Char) :
    (Text.readInt64? cs).map (fun n => decide (n ≠ 0)) =
      ((Text.readInt? cs).filter (inRange 64)).map fun n : Int => decide (n ≠ 0) := by
  have hzero : ∀ n : Int64, n.toInt ≠ 0 ↔ n ≠ 0 := fun n =>
    not_congr (Int64.toInt_inj (y := 0))
  rw [← map_toInt_eq_filter fun _ => Text.readInt64?_eq_some_iff, Option.map_map]
  simp only [Function.comp_def, hzero]

theorem toLower_of_isDigit {c : Char} (h : c.isDigit = true) : c.toLower = c := by
  have hdigit : 48 ≤ c.toNat ∧ c.toNat ≤ 57 := Char.isDigit_iff_toNat.1 h
  have hupper : ¬ (c.val ≥ 'A'.val ∧ c.val ≤ 'Z'.val) := by
    rintro ⟨hge, _⟩
    have hge' : 65 ≤ c.toNat := UInt32.le_iff_toNat_le.1 hge
    omega
  exact dif_neg hupper

/-- An integer is neither word of truth, which have no digit. -/
theorem readTruth?_of_readInt? {cs : List Char} {n : Int} (h : Text.readInt? cs = some n) :
    readTruth? cs = ((some n).filter (inRange 64)).map fun n : Int => decide (n ≠ 0) := by
  obtain ⟨c, hc, hdigit⟩ := Text.exists_isDigit_of_readInt? h
  have hword : ∀ word : String, (∀ d ∈ word.toList, d.isDigit = false) →
      String.ofList (cs.map Char.toLower) ≠ word := by
    rintro word hletters rfl
    have hmem : c ∈ cs.map Char.toLower :=
      List.mem_map.2 ⟨c, hc, toLower_of_isDigit hdigit⟩
    rw [String.toList_ofList] at hletters
    cases hdigit.symm.trans (hletters c hmem)
  rw [← h, ← map_ne_zero_readInt64?, readTruth?]
  simp only [if_neg (hword "true" (by simp)), if_neg (hword "false" (by simp))]

def readBool? : SqlValue → Option Bool
  | .bool b => some b
  | .float32 x => some !x.isZero
  | .float64 x => some !x.isZero
  | .bytes b => (trimmedText? (.bytes b)).bind readTruth?
  | v => v.integer?.map (· ≠ 0)

def readString? : SqlValue → Option String
  | .null => none
  | .bool b => some (if b then "true" else "false")
  | .float32 x => some x.toText
  | .float64 x => some x.toText
  | .text s => some s
  | .bytes b => Text.decode? b
  | v => v.integer?.map fun n => String.ofList (Text.showInt n)

def readBytes? : SqlValue → Option (List UInt8)
  | .bytes b => some b
  | .text s => some (Text.encode s)
  | _ => none

end SqlValue

/-- The types a column can be read as, null aside. -/
inductive ContentType where
  | int64 | int32 | int16 | int8 | float64 | float32 | bool | string | bytes | any
  deriving DecidableEq, Repr

namespace ContentType

def Carrier : ContentType → Type
  | .int64 => Int64
  | .int32 => Int32
  | .int16 => Int16
  | .int8 => Int8
  | .float64 => Double
  | .float32 => Single
  | .bool => Bool
  | .string => String
  | .bytes => List UInt8
  | .any => SqlValue

def name : ContentType → String
  | .int64 => "i64"
  | .int32 => "i32"
  | .int16 => "i16"
  | .int8 => "i8"
  | .float64 => "f64"
  | .float32 => "f32"
  | .bool => "bool"
  | .string => "String"
  | .bytes => "Vec<u8>"
  | .any => "SqlValue"

def read? : (t : ContentType) → SqlValue → Option t.Carrier
  | .int64 => SqlValue.readInt64?
  | .int32 => SqlValue.readInt32?
  | .int16 => SqlValue.readInt16?
  | .int8 => SqlValue.readInt8?
  | .float64 => SqlValue.readFloat64?
  | .float32 => SqlValue.readFloat32?
  | .bool => SqlValue.readBool?
  | .string => SqlValue.readString?
  | .bytes => SqlValue.readBytes?
  | .any => some

/-- The zero of the type: what a field holds before any column reaches it. -/
def default : (t : ContentType) → t.Carrier
  | .int64 => (0 : Int64)
  | .int32 => (0 : Int32)
  | .int16 => (0 : Int16)
  | .int8 => (0 : Int8)
  | .float64 => (⟨0⟩ : Double)
  | .float32 => (⟨0⟩ : Single)
  | .bool => false
  | .string => ""
  | .bytes => ([] : List UInt8)
  | .any => SqlValue.null

end ContentType

/-- The types a column can be read as. -/
inductive ColumnType where
  | required (content : ContentType)
  | nullable (content : ContentType)
  deriving DecidableEq, Repr

namespace ColumnType

def content : ColumnType → ContentType
  | .required t => t
  | .nullable t => t

def Carrier : ColumnType → Type
  | .required t => t.Carrier
  | .nullable t => Option t.Carrier

/-- A nullable type goes by the name of its content. -/
def name (t : ColumnType) : String := t.content.name

def read? : (t : ColumnType) → SqlValue → Option t.Carrier
  | .required t, v => t.read? v
  | .nullable t, v => if v.isNull then some (none : Option t.Carrier) else (t.read? v).map some

def default : (t : ColumnType) → t.Carrier
  | .required t => t.default
  | .nullable t => (none : Option t.Carrier)

theorem read?_nullable {t : ContentType} {v : SqlValue} (h : v ≠ .null) :
    (ColumnType.nullable t).read? v = (t.read? v).map some := by
  have hnull : v.isNull ≠ true := fun hv => h ((SqlValue.isNull_iff v).1 hv)
  exact if_neg hnull

end ColumnType
end BoundQuery
