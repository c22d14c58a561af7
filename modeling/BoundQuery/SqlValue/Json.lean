import BoundQuery.SqlValue.Basic
import BoundQuery.Json.Basic

/-!
# Values as JSON

A value is written without its kind: every integer width as a number, a byte
buffer as an array of numbers, and a float that is not finite as null.
-/

namespace BoundQuery
namespace SqlValue

open Ieee (Number)

def jsonFloat {f : Ieee.Format} (x : Number f) : Json :=
  if x.isFinite then .number (x.writeFinite (.json f)).toList else .null

def json : SqlValue → Json
  | .null => .null
  | .bool b => .bool b
  | .int8 n => .number (Text.showInt n.toInt)
  | .int16 n => .number (Text.showInt n.toInt)
  | .int32 n => .number (Text.showInt n.toInt)
  | .int64 n => .number (Text.showInt n.toInt)
  | .float32 x => jsonFloat x
  | .float64 x => jsonFloat x
  | .text s => .ofString s
  | .bytes b => .array (b.map fun byte => .ofNat byte.toNat)

example : (SqlValue.bytes [0, 255]).json.toText = "[0,255]" := by decide +kernel

example : (SqlValue.text "a\"\n").json.toText = "\"a\\\"\\n\"" := by decide +kernel

end SqlValue
end BoundQuery
