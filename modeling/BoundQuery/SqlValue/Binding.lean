import BoundQuery.SqlValue.Basic

/-!
# Binding typed values

Each type that can be bound has the value kind that holds all of its values: a
signed integer its own width, an unsigned one the next wider signed width.
Nothing binds as null.
-/

namespace BoundQuery

open Ieee (Single Double)

/-- Types whose values can be bound to a parameter. -/
class Bindable (α : Type) where
  toSqlValue : α → SqlValue

export Bindable (toSqlValue)

instance : Bindable SqlValue := ⟨id⟩

instance : Bindable Bool := ⟨.bool⟩

instance : Bindable Int8 := ⟨.int8⟩

instance : Bindable Int16 := ⟨.int16⟩

instance : Bindable Int32 := ⟨.int32⟩

instance : Bindable Int64 := ⟨.int64⟩

instance : Bindable UInt8 := ⟨fun n => .int16 (Int16.ofNat n.toNat)⟩

instance : Bindable UInt16 := ⟨fun n => .int32 (Int32.ofNat n.toNat)⟩

instance : Bindable UInt32 := ⟨fun n => .int64 (Int64.ofNat n.toNat)⟩

instance : Bindable Single := ⟨.float32⟩

instance : Bindable Double := ⟨.float64⟩

instance : Bindable String := ⟨.text⟩

instance : Bindable (List UInt8) := ⟨.bytes⟩

instance {α : Type} [Bindable α] : Bindable (Option α) :=
  ⟨fun
    | some x => toSqlValue x
    | none => .null⟩

@[simp] theorem toSqlValue_none {α : Type} [Bindable α] :
    toSqlValue (none : Option α) = .null := rfl

@[simp] theorem toSqlValue_some {α : Type} [Bindable α] (x : α) :
    toSqlValue (some x) = toSqlValue x := rfl

theorem integer?_toSqlValue_uint8 (n : UInt8) :
    (toSqlValue n).integer? = some (n.toNat : Int) := by
  have h := n.toNat_lt
  simp only [toSqlValue, SqlValue.integer?, Option.some.injEq]
  rw [Int16.toInt_ofNat_of_lt (by omega)]

theorem integer?_toSqlValue_uint16 (n : UInt16) :
    (toSqlValue n).integer? = some (n.toNat : Int) := by
  have h := n.toNat_lt
  simp only [toSqlValue, SqlValue.integer?, Option.some.injEq]
  rw [Int32.toInt_ofNat_of_lt (by omega)]

theorem integer?_toSqlValue_uint32 (n : UInt32) :
    (toSqlValue n).integer? = some (n.toNat : Int) := by
  have h := n.toNat_lt
  simp only [toSqlValue, SqlValue.integer?, Option.some.injEq]
  rw [Int64.toInt_ofNat_of_lt (by omega)]

end BoundQuery
