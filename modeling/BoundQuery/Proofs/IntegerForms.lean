import BoundQuery.SqlValue.Binding
import BoundQuery.SqlValue.Signed

/-!
# One integer in all its forms

An integer comes as a value of each width that holds it, bound from a machine
integer with or without a sign, or as its decimal text in a byte buffer. All of
these read alike under every type that counts, as a truth value, and as text.
-/

namespace BoundQuery

/-- The machine integers that can be bound. -/
inductive IntegerType where
  | int8 | int16 | int32 | int64 | uint8 | uint16 | uint32
  deriving DecidableEq, Repr

namespace IntegerType

def Carrier : IntegerType → Type
  | .int8 => Int8
  | .int16 => Int16
  | .int32 => Int32
  | .int64 => Int64
  | .uint8 => UInt8
  | .uint16 => UInt16
  | .uint32 => UInt32

instance : (t : IntegerType) → Bindable t.Carrier
  | .int8 => inferInstanceAs (Bindable Int8)
  | .int16 => inferInstanceAs (Bindable Int16)
  | .int32 => inferInstanceAs (Bindable Int32)
  | .int64 => inferInstanceAs (Bindable Int64)
  | .uint8 => inferInstanceAs (Bindable UInt8)
  | .uint16 => inferInstanceAs (Bindable UInt16)
  | .uint32 => inferInstanceAs (Bindable UInt32)

def toInt : (t : IntegerType) → t.Carrier → Int
  | .int8, x => Int8.toInt x
  | .int16, x => Int16.toInt x
  | .int32, x => Int32.toInt x
  | .int64, x => Int64.toInt x
  | .uint8, x => (UInt8.toNat x : Int)
  | .uint16, x => (UInt16.toNat x : Int)
  | .uint32, x => (UInt32.toNat x : Int)

theorem integer?_toSqlValue (t : IntegerType) (x : t.Carrier) :
    (toSqlValue x).integer? = some (t.toInt x) := by
  cases t with
  | int8 => rfl
  | int16 => rfl
  | int32 => rfl
  | int64 => rfl
  | uint8 => exact integer?_toSqlValue_uint8 x
  | uint16 => exact integer?_toSqlValue_uint16 x
  | uint32 => exact integer?_toSqlValue_uint32 x

end IntegerType

namespace SqlValue

/-- The forms an integer can come in, its decimal text without any white space. -/
inductive Holds (n : Int) : SqlValue → Prop where
  | int8 {x : Int8} (h : x.toInt = n) : Holds n (.int8 x)
  | int16 {x : Int16} (h : x.toInt = n) : Holds n (.int16 x)
  | int32 {x : Int32} (h : x.toInt = n) : Holds n (.int32 x)
  | int64 {x : Int64} (h : x.toInt = n) : Holds n (.int64 x)
  | bound {t : IntegerType} {x : t.Carrier} (h : t.toInt x = n) : Holds n (toSqlValue x)
  | boundSome {t : IntegerType} {x : t.Carrier} (h : t.toInt x = n) : Holds n (toSqlValue (some x))
  | text : Holds n (.bytes (Text.encode (toString n)))

/-- A byte buffer with the decimal text of an integer and any white space around it. -/
def HoldsSpaced (n : Int) (v : SqlValue) : Prop :=
  ∃ before after : String, (∀ c ∈ before.toList, Text.isBlank c = true) ∧
    (∀ c ∈ after.toList, Text.isBlank c = true) ∧
    v = .bytes (Text.encode (before ++ toString n ++ after))

def fitting (least greatest n : Int) : Option Int :=
  if least ≤ n ∧ n ≤ greatest then some n else none

/-- Whether a value reads as the integer `n` where `n` fits, and as its truth. -/
structure ReadsAs (v : SqlValue) (n : Int) : Prop where
  int8 : (ContentType.int8.read? v).map Int8.toInt =
    fitting Int8.minValue.toInt Int8.maxValue.toInt n
  int16 : (ContentType.int16.read? v).map Int16.toInt =
    fitting Int16.minValue.toInt Int16.maxValue.toInt n
  int32 : (ContentType.int32.read? v).map Int32.toInt =
    fitting Int32.minValue.toInt Int32.maxValue.toInt n
  int64 : (ContentType.int64.read? v).map Int64.toInt =
    fitting Int64.minValue.toInt Int64.maxValue.toInt n
  bool : ContentType.bool.read? v = some (decide (n ≠ 0))
  nullable : ∀ t : ContentType, (ColumnType.nullable t).read? v = (t.read? v).map some

theorem fitting_eq_some_iff {least greatest n m : Int} :
    fitting least greatest n = some m ↔ (least ≤ n ∧ n ≤ greatest) ∧ n = m := by
  simp only [fitting, Option.ite_none_right_eq_some, Option.some.injEq]

theorem fitting_range_eq_filter (t : SignedType) (n : Int) :
    fitting t.least t.greatest n = (some n).filter (inRange t.bits) := by
  simp only [fitting, Option.filter_some, t.inRange_bits_iff]

theorem read?_of_readInt? (t : SignedType) {v : SqlValue} {n : Int} (h : v.readInt? = some n) :
    t.read? v = fitting t.least t.greatest n := by
  apply Option.ext
  intro m
  rw [SignedType.read?_eq_some_iff, h, fitting_eq_some_iff, Option.some.injEq]
  constructor
  · rintro ⟨rfl, hrange⟩
    exact ⟨hrange, rfl⟩
  · rintro ⟨hrange, rfl⟩
    exact ⟨rfl, hrange⟩

theorem readsAs_of_readInt? {v : SqlValue} {n : Int} (hint : v.readInt? = some n)
    (hbool : v.readBool? = some (decide (n ≠ 0))) : v.ReadsAs n where
  int8 := read?_of_readInt? .int8 hint
  int16 := read?_of_readInt? .int16 hint
  int32 := read?_of_readInt? .int32 hint
  int64 := read?_of_readInt? .int64 hint
  bool := hbool
  nullable _ := by
    apply ColumnType.read?_nullable
    rintro rfl
    cases hint

section IntegerKinds

variable {v : SqlValue} {n : Int}

theorem readInt?_of_integer? (h : v.integer? = some n) : v.readInt? = some n := by
  cases v <;> first | exact h | cases h

theorem readBool?_of_integer? (h : v.integer? = some n) :
    v.readBool? = some (decide (n ≠ 0)) := by
  have hmap : v.readBool? = v.integer?.map fun n : Int => decide (n ≠ 0) := by
    cases v <;> first | rfl | cases h
  rw [hmap, h, Option.map_some]

theorem readString?_of_integer? (h : v.integer? = some n) : v.readString? = some (toString n) := by
  have hmap : v.readString? = v.integer?.map fun n => String.ofList (Text.showInt n) := by
    cases v <;> first | rfl | cases h
  rw [hmap, h, Option.map_some, Text.ofList_showInt]

theorem readFloat64?_of_integer? (h : v.integer? = some n) :
    v.readFloat64? = some (Ieee.Number.ofInt n) := by
  have hmap : v.readFloat64? = v.integer?.map Ieee.Number.ofInt := by
    cases v <;> first | rfl | cases h
  rw [hmap, h, Option.map_some]

theorem readFloat32?_of_integer? (h : v.integer? = some n) :
    v.readFloat32? = some (Ieee.Number.ofInt n) := by
  have hmap : v.readFloat32? = v.integer?.map Ieee.Number.ofInt := by
    cases v <;> first | rfl | cases h
  rw [hmap, h, Option.map_some]

end IntegerKinds

section SpacedText

variable {v : SqlValue} {n : Int}

theorem isBlank_of_mem_showInt {c : Char} (h : c ∈ Text.showInt n) : Text.isBlank c = false := by
  rcases Text.isDigit_or_eq_of_mem_showInt h with hdigit | rfl
  · exact Text.isBlank_of_isDigit hdigit
  · decide

theorem HoldsSpaced.trimmedText? (h : v.HoldsSpaced n) : v.trimmedText? = some (Text.showInt n) := by
  obtain ⟨before, after, hbefore, hafter, rfl⟩ := h
  have hchars : (before ++ toString n ++ after).toList =
      before.toList ++ Text.showInt n ++ after.toList := by
    rw [← Text.ofList_showInt, String.toList_append, String.toList_append, String.toList_ofList]
  have htrim : Text.trim (before.toList ++ Text.showInt n ++ after.toList) = Text.showInt n := by
    apply Text.trim_append hbefore hafter (Text.showInt_ne_nil n)
    · exact fun c hc => isBlank_of_mem_showInt (List.mem_of_mem_head? hc)
    · exact fun c hc => isBlank_of_mem_showInt (List.mem_of_mem_getLast? hc)
  rw [SqlValue.trimmedText?, Text.decode?_encode, Option.map_some, hchars, htrim]

theorem HoldsSpaced.readInt? (h : v.HoldsSpaced n) :
    v.readInt? = fitting Int64.minValue.toInt Int64.maxValue.toInt n := by
  have htext := h.trimmedText?
  obtain ⟨before, after, _, _, rfl⟩ := h
  rw [readInt?_bytes, htext, Option.bind_some, Text.readInt?_showInt]
  exact (fitting_range_eq_filter .int64 n).symm

theorem HoldsSpaced.readBool? (h : v.HoldsSpaced n) : v.readBool? =
    (fitting Int64.minValue.toInt Int64.maxValue.toInt n).map fun n : Int => decide (n ≠ 0) := by
  have htext := h.trimmedText?
  obtain ⟨before, after, _, _, rfl⟩ := h
  rw [SqlValue.readBool?, htext, Option.bind_some,
    readTruth?_of_readInt? (Text.readInt?_showInt n)]
  exact congrArg _ (fitting_range_eq_filter .int64 n).symm

end SpacedText

theorem Holds.integer?_or_eq {v : SqlValue} {n : Int} (h : v.Holds n) :
    v.integer? = some n ∨ v = .bytes (Text.encode (toString n)) := by
  cases h with
  | int8 h => exact Or.inl (congrArg some h)
  | int16 h => exact Or.inl (congrArg some h)
  | int32 h => exact Or.inl (congrArg some h)
  | int64 h => exact Or.inl (congrArg some h)
  | bound h => exact Or.inl ((IntegerType.integer?_toSqlValue _ _).trans (congrArg some h))
  | boundSome h => exact Or.inl ((IntegerType.integer?_toSqlValue _ _).trans (congrArg some h))
  | text => exact Or.inr rfl

theorem holdsSpaced_text (n : Int) : HoldsSpaced n (.bytes (Text.encode (toString n))) :=
  ⟨"", "", by simp, by simp, by simp⟩

theorem Holds.readString? {v : SqlValue} {n : Int} (h : v.Holds n) :
    v.readString? = some (toString n) := by
  rcases h.integer?_or_eq with hkind | rfl
  · exact readString?_of_integer? hkind
  · exact Text.decode?_encode _

/-- An integer of 64 bits reads the same in each of its forms. -/
theorem integer_reads_alike {n : Int}
    (hn : Int64.minValue.toInt ≤ n ∧ n ≤ Int64.maxValue.toInt) {v : SqlValue}
    (h : v.Holds n ∨ v.HoldsSpaced n) :
    v.ReadsAs n ∧ (v.Holds n → ContentType.string.read? v = some (toString n)) := by
  have hform : v.integer? = some n ∨ v.HoldsSpaced n := by
    rcases h with h | h
    · rcases h.integer?_or_eq with hkind | rfl
      · exact Or.inl hkind
      · exact Or.inr (holdsSpaced_text n)
    · exact Or.inr h
  constructor
  · rcases hform with hkind | hspaced
    · exact readsAs_of_readInt? (readInt?_of_integer? hkind) (readBool?_of_integer? hkind)
    · have hfit := fitting_eq_some_iff.2 ⟨hn, rfl⟩
      apply readsAs_of_readInt?
      · rw [hspaced.readInt?, hfit]
      · rw [hspaced.readBool?, hfit, Option.map_some]
  · exact Holds.readString?

/-- The least integer of 64 bits as spaced text, and one above 32 bits bound from an unsigned type. -/
theorem integer_reads_alike_at_bounds :
    let spaced := SqlValue.bytes (Text.encode "\u3000-9223372036854775808\t")
    let bound := toSqlValue (some (4294967295 : UInt32))
    spaced.HoldsSpaced (-9223372036854775808) ∧ bound.Holds 4294967295 ∧
    (ContentType.int64.read? spaced).map Int64.toInt = some (-9223372036854775808) ∧
    ContentType.bool.read? spaced = some true ∧
    (ContentType.int64.read? bound).map Int64.toInt = some 4294967295 ∧
    (ContentType.int32.read? bound).map Int32.toInt = none ∧
    ContentType.string.read? bound = some "4294967295" := by
  intro spaced bound
  have hspaced : spaced.HoldsSpaced (-9223372036854775808) := by
    refine ⟨"\u3000", "\t", ?_, ?_, by decide +kernel⟩
    · have hwide : Text.isBlank '\u3000' = true := by decide
      simpa using hwide
    · have htab : Text.isBlank '\t' = true := by decide
      simpa using htab
  have hbound : bound.Holds 4294967295 :=
    Holds.boundSome (t := .uint32) (x := (4294967295 : UInt32)) rfl
  obtain ⟨hleast, _⟩ := integer_reads_alike (by decide) (Or.inr hspaced)
  obtain ⟨hgreat, htext⟩ := integer_reads_alike (by decide) (Or.inl hbound)
  exact ⟨hspaced, hbound, hleast.int64, hleast.bool, hgreat.int64, hgreat.int32, htext hbound⟩

end SqlValue
end BoundQuery
