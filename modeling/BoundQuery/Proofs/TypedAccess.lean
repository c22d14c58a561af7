import BoundQuery.Proofs.FloatIntegers
import BoundQuery.Proofs.FloatText
import BoundQuery.Row

/-!
# Typed access

What each type refuses is said here by the kind and the content of the value,
without a word on how the type reads it. Typed access to a row fails where the
column is not there and where its type refuses the value, and nowhere else.
-/

namespace BoundQuery

open Ieee (truncation)

namespace SignedType

def OutOfRange (t : SignedType) (n : ℤ) : Prop := n < t.least ∨ t.greatest < n

/-- A signed type refuses the numbers whose truncation is out of its range, the floats without a
value, byte buffers without the text of an integer in its range, and what is no number. -/
def Refuses (t : SignedType) : SqlValue → Prop
  | .int8 n => t.OutOfRange n.toInt
  | .int16 n => t.OutOfRange n.toInt
  | .int32 n => t.OutOfRange n.toInt
  | .int64 n => t.OutOfRange n.toInt
  | .float32 x => ∀ q, x.value? = some q → t.OutOfRange (truncation q)
  | .float64 x => ∀ q, x.value? = some q → t.OutOfRange (truncation q)
  | .bytes b => ∀ core n, Text.Encloses b core → Text.SpellsInt core n → t.OutOfRange n
  | .null | .bool _ | .text _ => True

end SignedType

namespace SqlValue

/-- Both float types refuse what is no number and byte buffers without the text of a float. -/
def RefusedAsFloat : SqlValue → Prop
  | .null | .bool _ | .text _ => True
  | .bytes b => ∀ core, Text.Encloses b core → ¬ Text.SpellsFloat core
  | _ => False

/-- The truth type refuses null, text and byte buffers without the text of a truth value. -/
def RefusedAsBool : SqlValue → Prop
  | .null | .text _ => True
  | .bytes b => ∀ core truth, Text.Encloses b core → ¬ Text.SpellsTruth core truth
  | _ => False

/-- The string type refuses null and the bytes that encode no text. -/
def RefusedAsString : SqlValue → Prop
  | .null => True
  | .bytes b => ∀ s, b ≠ Text.encode s
  | _ => False

/-- The bytes type takes byte buffers and text alone. -/
def RefusedAsBytes : SqlValue → Prop
  | .bytes _ | .text _ => False
  | _ => True

end SqlValue

namespace ContentType

def Refuses : ContentType → SqlValue → Prop
  | .int64 => SignedType.int64.Refuses
  | .int32 => SignedType.int32.Refuses
  | .int16 => SignedType.int16.Refuses
  | .int8 => SignedType.int8.Refuses
  | .float64 => SqlValue.RefusedAsFloat
  | .float32 => SqlValue.RefusedAsFloat
  | .bool => SqlValue.RefusedAsBool
  | .string => SqlValue.RefusedAsString
  | .bytes => SqlValue.RefusedAsBytes
  | .any => fun _ => False

end ContentType

/-- A nullable type refuses what its content type does, null aside. -/
def ColumnType.Refuses : ColumnType → SqlValue → Prop
  | .required t, v => t.Refuses v
  | .nullable t, v => v ≠ .null ∧ t.Refuses v

/-- The value that stands beside the first occurrence of a column. -/
def Row.Stores (r : Row) (column : String) (v : SqlValue) : Prop :=
  ∃ before after, r.entries = before ++ (column, v) :: after ∧ ∀ entry ∈ before, entry.1 ≠ column

namespace SignedType

variable {t : SignedType} {v : SqlValue}

theorem read?_eq_none_iff_outOfRange {P : ℤ → Prop}
    (h : ∀ n, t.read? v = some n ↔ P n ∧ t.least ≤ n ∧ n ≤ t.greatest) :
    t.read? v = none ↔ ∀ n, P n → t.OutOfRange n := by
  rw [Option.eq_none_iff_forall_ne_some]
  refine forall_congr' fun n => ?_
  rw [Ne, h, OutOfRange]
  constructor
  · intro hout hn
    by_contra hrange
    exact hout ⟨hn, by omega, by omega⟩
  · rintro hout ⟨hn, hlow, hhigh⟩
    have hrange := hout hn
    omega

theorem read?_eq_none_iff_of_readInt? {n : ℤ} (h : v.readInt? = some n) :
    t.read? v = none ↔ t.OutOfRange n := by
  rw [read?_eq_none_iff_outOfRange fun _ => read?_eq_some_iff, h]
  simp only [Option.some.injEq, forall_eq']

theorem read?_eq_none_iff_of_value? {x : Option ℚ}
    (h : v.readInt? = (x.map truncation).filter (SqlValue.inRange 64)) :
    t.read? v = none ↔ ∀ q, x = some q → t.OutOfRange (truncation q) := by
  rw [read?_eq_none_iff_outOfRange fun _ => read?_eq_some_iff_of_filter h]
  simp only [Option.map_eq_some_iff, forall_exists_index, and_imp, forall_apply_eq_imp_iff₂]

theorem read?_eq_none_of_readInt? (h : v.readInt? = none) : t.read? v = none := by
  rw [Option.eq_none_iff_forall_ne_some]
  intro n hread
  cases h.symm.trans (read?_eq_some_iff.1 hread).1

theorem read?_eq_none_iff (t : SignedType) (v : SqlValue) :
    t.read? v = none ↔ t.Refuses v := by
  cases v with
  | null => exact iff_of_true (read?_eq_none_of_readInt? rfl) trivial
  | bool b => exact iff_of_true (read?_eq_none_of_readInt? rfl) trivial
  | text s => exact iff_of_true (read?_eq_none_of_readInt? rfl) trivial
  | int8 n => exact read?_eq_none_iff_of_readInt? rfl
  | int16 n => exact read?_eq_none_iff_of_readInt? rfl
  | int32 n => exact read?_eq_none_iff_of_readInt? rfl
  | int64 n => exact read?_eq_none_iff_of_readInt? rfl
  | float32 x =>
    apply read?_eq_none_iff_of_value?
    rw [← x.truncate?_eq (by decide), SqlValue.readInt?_float32]
  | float64 x =>
    apply read?_eq_none_iff_of_value?
    rw [← x.truncate?_eq (by decide), SqlValue.readInt?_float64]
  | bytes b =>
    rw [read?_eq_none_iff_outOfRange fun _ => SqlValue.read?_bytes_eq_some_iff]
    simp only [forall_exists_index, and_imp, Refuses]
    exact forall_comm

end SignedType

namespace SqlValue

theorem trimmedText?_bind_eq_none_iff {b : List UInt8} {α : Type} {read : List Char → Option α} :
    (trimmedText? (.bytes b)).bind read = none ↔
      ∀ core, Text.Encloses b core → ¬ (read core).isSome = true := by
  simp only [Option.bind_eq_none_iff, Text.encloses_iff, Option.not_isSome_iff_eq_none]

theorem readFloat64?_eq_none_iff (v : SqlValue) : v.readFloat64? = none ↔ v.RefusedAsFloat := by
  cases v with
  | bytes b =>
    simp only [readFloat64?, trimmedText?_bind_eq_none_iff, Text.isSome_readFloat?_iff,
      RefusedAsFloat]
  | _ => simp [readFloat64?, RefusedAsFloat, integer?]

theorem readFloat32?_eq_none_iff (v : SqlValue) : v.readFloat32? = none ↔ v.RefusedAsFloat := by
  cases v with
  | bytes b =>
    simp only [readFloat32?, trimmedText?_bind_eq_none_iff, Text.isSome_readFloat?_iff,
      RefusedAsFloat]
  | _ => simp [readFloat32?, RefusedAsFloat, integer?]

theorem readBool?_eq_none_iff (v : SqlValue) : v.readBool? = none ↔ v.RefusedAsBool := by
  cases v with
  | bytes b =>
    simp only [Option.eq_none_iff_forall_ne_some, ne_eq, readBool?_bytes_eq_some_iff, not_exists,
      not_and, RefusedAsBool]
    exact forall_comm
  | _ => simp [readBool?, RefusedAsBool, integer?]

theorem readString?_eq_none_iff (v : SqlValue) : v.readString? = none ↔ v.RefusedAsString := by
  cases v with
  | bytes b =>
    simp only [readString?, Option.eq_none_iff_forall_ne_some, ne_eq, Text.decode?_eq_some_iff,
      RefusedAsString]
  | _ => simp [readString?, RefusedAsString, integer?]

theorem readBytes?_eq_none_iff (v : SqlValue) : v.readBytes? = none ↔ v.RefusedAsBytes := by
  cases v <;> simp [readBytes?, RefusedAsBytes]

end SqlValue

theorem ContentType.read?_eq_none_iff (t : ContentType) (v : SqlValue) :
    t.read? v = none ↔ t.Refuses v := by
  have hsigned : ∀ t : SignedType, t.content.read? v = none ↔ t.Refuses v := by
    intro t
    rw [← t.read?_eq_none_iff, SignedType.read?, Option.map_eq_none_iff]
  cases t with
  | int64 => exact hsigned .int64
  | int32 => exact hsigned .int32
  | int16 => exact hsigned .int16
  | int8 => exact hsigned .int8
  | float64 => exact v.readFloat64?_eq_none_iff
  | float32 => exact v.readFloat32?_eq_none_iff
  | bool => exact v.readBool?_eq_none_iff
  | string => exact v.readString?_eq_none_iff
  | bytes => exact v.readBytes?_eq_none_iff
  | any => exact iff_of_false (Option.some_ne_none v) id

theorem ColumnType.read?_eq_none_iff (t : ColumnType) (v : SqlValue) :
    t.read? v = none ↔ t.Refuses v := by
  cases t with
  | required t => exact t.read?_eq_none_iff v
  | nullable t =>
    by_cases hnull : v = .null
    · subst hnull
      exact iff_of_false (Option.some_ne_none _) fun h => h.1 rfl
    · have hcontent : (ColumnType.nullable t).read? v = none ↔ t.read? v = none := by
        rw [ColumnType.read?_nullable hnull]
        exact Option.map_eq_none_iff
      rw [hcontent, t.read?_eq_none_iff]
      exact (and_iff_right hnull).symm

namespace Row

theorem get?_eq_lookup (r : Row) (column : String) : r.get? column = r.entries.lookup column := by
  obtain ⟨columns, values, hlength⟩ := r
  change (columns.idxOf? column).bind (values[·]?) = (columns.zip values).lookup column
  -- both stop at the first column of this name, the one with an index and the other with the value
  induction columns generalizing values with
  | nil => simp
  | cons first columns ih =>
    obtain ⟨v, values, rfl⟩ := List.exists_cons_of_length_eq_add_one hlength
    rw [List.zip_cons_cons, List.lookup_cons, ← ih values (Nat.succ.inj hlength), List.idxOf?_cons]
    by_cases hfirst : column = first
    · simp [hfirst]
    · rw [beq_false_of_ne hfirst, beq_false_of_ne (Ne.symm hfirst)]
      simp [Option.bind_map]

variable {r : Row} {column : String}

theorem stores_iff {v : SqlValue} : r.Stores column v ↔ r.get? column = some v := by
  rw [get?_eq_lookup, List.lookup_eq_some_iff, Stores]
  simp only [bne_iff_ne, ne_comm]

theorem exists_stores_iff : (∃ v, r.Stores column v) ↔ column ∈ r.columns := by
  simp only [stores_iff, ← Option.isSome_iff_exists, Option.isSome_iff_ne_none, ne_eq,
    get?_eq_none_iff, not_not]

theorem getAs_of_stores {t : ColumnType} {v : SqlValue} (h : r.Stores column v) :
    r.getAs t column = t.decode column v := getAs_of_get? (stores_iff.1 h) t

theorem getAs_eq_columnNotFound_iff {t : ColumnType} :
    r.getAs t column = .error (.columnNotFound column) ↔ column ∉ r.columns := by
  constructor
  · intro h hmem
    obtain ⟨v, hv⟩ := exists_stores_iff.2 hmem
    rw [getAs_of_stores hv] at h
    cases ColumnType.eq_cannotConvert_of_decode h
  · intro hnot
    rw [getAs, value, get?_eq_none_iff.2 hnot]
    rfl

/-- Typed access fails for a column that is not there and for a value that its type refuses, and
the error tells which: the column alone, or also the kind of the value and the name of the type. -/
theorem typed_access_fails_iff_absent_or_refused (r : Row) (column : String) (t : ColumnType) :
    (r.getAs t column = .error (.columnNotFound column) ↔ column ∉ r.columns) ∧
    ((∃ v, r.Stores column v) ↔ column ∈ r.columns) ∧
    (∀ v, r.Stores column v → r.getAs t column = t.decode column v) ∧
    ∀ v e, t.decode column v = .error e ↔
      t.Refuses v ∧ e = .cannotConvert column v.kind.name t.content.name := by
  refine ⟨getAs_eq_columnNotFound_iff, exists_stores_iff, fun v => getAs_of_stores, fun v e => ?_⟩
  rw [ColumnType.decode_eq_error_iff, ColumnType.read?_eq_none_iff, ColumnType.name]

end Row
end BoundQuery
