import BoundQuery.SqlValue.Reading

/-!
# Values in order

Stored values are ordered by kind first: null, numbers by their exact values,
text by code points, byte buffers by bytes. Keys are 64-bit integers, but any
kind of value can be bound where a key stands; a text that is a decimal number,
with ASCII white space around it, then counts as that number.
-/

namespace BoundQuery

open Ieee (Number)

namespace SqlValue

/-- ASCII white space without the separators of records and files. -/
def isGap (c : Char) : Bool := c == ' ' || '\t' ≤ c && c ≤ '\r'

def trimGaps (cs : List Char) : List Char :=
  ((cs.dropWhile isGap).reverse.dropWhile isGap).reverse

/-- The number that a text is: an integer if it has no point or exponent and fits 64 bits, else a
double. The words for what is not finite have no digits and are no numbers. -/
def readNumeric? (s : String) : Option SqlValue :=
  let cs := trimGaps s.toList
  match (Text.readInt? cs).filter (inRange 64) with
  | some n => some (.int64 (Int64.ofInt n))
  | none => if cs.any Char.isDigit then (Number.read? .double cs).map .float64 else none

/-- What a value counts as beside a key. -/
def numeric : SqlValue → SqlValue
  | .text s => (readNumeric? s).getD (.text s)
  | v => v

example : numeric (.text " 01\n") = .int64 1 := by decide +kernel

example : numeric (.text "1e0") = .float64 ⟨0x3ff0000000000000#64⟩ := by decide +kernel

example : numeric (.text "inf") = .text "inf" := by decide +kernel

/-- The exact value of a stored number in units of double precision. Infinity is the magnitude that
its pattern would have as a finite number, which is above all finite ones. -/
def inUnits? : SqlValue → Option Int
  | .int64 n => some (n.toInt * Ieee.Format.double.one)
  | .float64 x =>
    let signed (negative : Bool) (magnitude : Int) := if negative then -magnitude else magnitude
    match x.datum with
    | .finite negative units => some (signed negative units)
    | .infinite negative =>
      some (signed negative (Ieee.Format.double.units Ieee.Format.double.infinityCode))
    | .nan => none
  | _ => none

/-- The order of two stored values. -/
def compareStored : SqlValue → SqlValue → Ordering
  | .null, .null => .eq
  | .null, _ => .lt
  | _, .null => .gt
  | .text s, .text t => compare s t
  | .text _, .bytes _ => .lt
  | .bytes _, .text _ => .gt
  | .bytes b, .bytes c => compare (b.map UInt8.toNat) (c.map UInt8.toNat)
  | v, w =>
    match v.inUnits?, w.inUnits? with
    | some m, some n => compare m n
    | some _, none => .lt
    | none, some _ => .gt
    | none, none => .eq

def isUpTo (v w : SqlValue) : Bool := v.compareStored w != .gt

end SqlValue

/-- How a key stands to a stored value: before all that is no number, and in no relation to null. -/
def compareKey? (key : Int) (v : SqlValue) : Option Ordering :=
  match v.numeric with
  | .null => none
  | .int64 n => some (compare key n.toInt)
  | w => some ((w.inUnits?.map (compare (key * Ieee.Format.double.one))).getD .lt)

/-- The key that a stored value is: an integer, or a whole double strictly between the least and
the greatest key. -/
def keyOf? (v : SqlValue) : Option Int :=
  match v.numeric with
  | .int64 n => some n.toInt
  | .float64 x =>
    x.truncate?.filter fun n => n.natAbs < Nat.pow 2 63 && (Number.ofInt n).equal x
  | _ => none

example : keyOf? (.text "2.0") = some 2 := by decide +kernel

example : keyOf? (.float64 ⟨0xc3e0000000000000#64⟩) = none := by decide +kernel

end BoundQuery
