import BoundQuery.Database.Store
import BoundQuery.Ieee.Widening
import BoundQuery.Proofs.IntegerForms

/-!
# Reading back what was bound

Binding keeps the width of a value and the database does not, so a column in
which a query gives an argument back unchanged may come as another kind. The
types that count cannot tell. Of the driver only this is taken for granted: how
it stores each machine type, and that it tells the storage class of a column.
-/

namespace BoundQuery

/-- How a driver stores its arguments, NaNs aside: integers and truth values as integers of 64 bits,
floats of both widths in double precision, texts and blobs as they are. -/
structure ArgumentCodec.Stores {α : Type} [ArgumentCodec α] (storage : α → Storage) : Prop where
  null : storage ArgumentCodec.null = .null
  bool (b : Bool) : storage (ArgumentCodec.bool b) = .integer (if b then 1 else 0)
  int8 (n : Int8) : storage (ArgumentCodec.int8 n) = .integer n.toInt64
  int16 (n : Int16) : storage (ArgumentCodec.int16 n) = .integer n.toInt64
  int32 (n : Int32) : storage (ArgumentCodec.int32 n) = .integer n.toInt64
  int64 (n : Int64) : storage (ArgumentCodec.int64 n) = .integer n
  single (x : Ieee.Single) : x.isNaN = false → storage (ArgumentCodec.single x) = .real x.convert
  double (x : Ieee.Double) : x.isNaN = false → storage (ArgumentCodec.double x) = .real x
  text (s : String) : storage (ArgumentCodec.text s) = .text s
  blob (b : List UInt8) : storage (ArgumentCodec.blob b) = .blob b

/-- What a driver tells of its columns: the storage class of each, and on asking for the type of
that class what is held there. -/
structure ColumnCodec.Reports {ρ : Type} [ColumnCodec ρ] (held : ρ → Storage) : Prop where
  isNull_iff (c : ρ) : ColumnCodec.isNull c = true ↔ held c = .null
  integer {c : ρ} {n : Int64} : held c = .integer n →
    ColumnCodec.className c = "INTEGER" ∧ ColumnCodec.int64? c = some n
  real {c : ρ} {x : Ieee.Double} : held c = .real x →
    ColumnCodec.className c = "REAL" ∧ ColumnCodec.double? c = some x
  text {c : ρ} {s : String} : held c = .text s →
    ColumnCodec.className c = "TEXT" ∧ ColumnCodec.text? c = some s
  blob {c : ρ} {b : List UInt8} : held c = .blob b →
    ColumnCodec.className c = "BLOB" ∧ ColumnCodec.blob? c = some b

/-- A query gives argument `j` back unchanged as column `i`. -/
def GivesBack {α ρ : Type} (storage : α → Storage) (held : ρ → Storage) (sent : List α)
    (row : List ρ) (j i : Nat) : Prop :=
  ∃ a c, sent[j]? = some a ∧ row[i]? = some c ∧ held c = storage a

/-- The types that cannot tell a value of this kind from what comes back for it. -/
def Kind.Keeps : Kind → ContentType → Prop
  | .int8, t | .int16, t | .int32, t | .int64, t => t ≠ .bytes ∧ t ≠ .any
  | .float32, t | .float64, t => t ≠ .string ∧ t ≠ .bytes ∧ t ≠ .any
  | .bool, t => t = .bool
  | .null, _ | .text, _ | .bytes, _ => True

namespace SqlValue

def isNaN : SqlValue → Bool
  | .float32 x => x.isNaN
  | .float64 x => x.isNaN
  | _ => false

/-- How a value compares with what comes back for it. -/
structure ReadsBack (v w : SqlValue) : Prop where
  read? : ∀ t : ColumnType, v.kind.Keeps t.content → t.read? w = t.read? v
  eq_of_kind : v.kind = .text ∨ v.kind = .bytes → w = v
  null_iff : w = .null ↔ v = .null

section Stored

variable {v : SqlValue}

theorem stored_float32 {x : Ieee.Single} (h : x.isNaN = false) :
    (SqlValue.float32 x).stored = .float64 x.convert := by
  have hreal : (bindValue (.float32 x) : Storage) = .real x.convert := if_neg (by simp [h])
  rw [stored, hreal, Storage.value]

theorem stored_float64 {x : Ieee.Double} (h : x.isNaN = false) :
    (SqlValue.float64 x).stored = .float64 x := by
  have hreal : (bindValue (.float64 x) : Storage) = .real x := if_neg (by simp [h])
  rw [stored, hreal, Storage.value]

theorem integer?_stored {n : Int} (h : v.integer? = some n) : v.stored.integer? = some n := by
  cases v with
  | int8 m => exact (congrArg some m.toInt_toInt64).trans h
  | int16 m => exact (congrArg some m.toInt_toInt64).trans h
  | int32 m => exact (congrArg some m.toInt_toInt64).trans h
  | int64 m => exact h
  | _ => cases h

theorem read?_eq_of_integer? {w : SqlValue} {n : Int} (hv : v.integer? = some n)
    (hw : w.integer? = some n) {t : ContentType} (ht : t ≠ .bytes ∧ t ≠ .any) :
    t.read? w = t.read? v := by
  have hint : w.readInt? = v.readInt? := (readInt?_of_integer? hw).trans (readInt?_of_integer? hv).symm
  cases t with
  | int64 => exact congrArg (Option.map Int64.ofInt) hint
  | int32 => exact congrArg (fun o => (o.filter (inRange 32)).map Int32.ofInt) hint
  | int16 => exact congrArg (fun o => (o.filter (inRange 16)).map Int16.ofInt) hint
  | int8 => exact congrArg (fun o => (o.filter (inRange 8)).map Int8.ofInt) hint
  | float64 => exact (readFloat64?_of_integer? hw).trans (readFloat64?_of_integer? hv).symm
  | float32 => exact (readFloat32?_of_integer? hw).trans (readFloat32?_of_integer? hv).symm
  | bool => exact (readBool?_of_integer? hw).trans (readBool?_of_integer? hv).symm
  | string => exact (readString?_of_integer? hw).trans (readString?_of_integer? hv).symm
  | bytes => exact absurd rfl ht.1
  | any => exact absurd rfl ht.2

theorem read?_float64_convert {x : Ieee.Single} (h : x.isNaN = false) {t : ContentType}
    (ht : t ≠ .string ∧ t ≠ .bytes ∧ t ≠ .any) :
    t.read? (.float64 x.convert) = t.read? (.float32 x) := by
  cases t with
  | float32 => exact congrArg some (Ieee.Number.convert_convert h)
  | bool => exact congrArg (fun isZero => some !isZero) (Ieee.Number.isZero_convert x)
  | string => exact absurd rfl ht.1
  | bytes => exact absurd rfl ht.2.1
  | any => exact absurd rfl ht.2.2
  | _ => rfl

theorem read?_stored (hv : v.isNaN = false) {t : ContentType} (ht : v.kind.Keeps t) :
    t.read? v.stored = t.read? v := by
  cases v with
  | int8 n => exact read?_eq_of_integer? rfl (integer?_stored rfl) ht
  | int16 n => exact read?_eq_of_integer? rfl (integer?_stored rfl) ht
  | int32 n => exact read?_eq_of_integer? rfl (integer?_stored rfl) ht
  | int64 n => rfl
  | float32 x =>
    rw [stored_float32 hv]
    exact read?_float64_convert hv ht
  | float64 x => rw [stored_float64 hv]
  | bool b =>
    cases ht
    cases b <;> rfl
  | null => rfl
  | text s => rfl
  | bytes b => rfl

theorem stored_eq_null_iff (hv : v.isNaN = false) : v.stored = .null ↔ v = .null := by
  cases v with
  | null => exact iff_of_true rfl rfl
  | float32 x => simp [stored_float32 hv]
  | float64 x => simp [stored_float64 hv]
  | _ => exact iff_of_false (fun h => by cases h) fun h => by cases h

/-- A value reads as before once it was stored. -/
theorem readsBack_stored (hv : v.isNaN = false) : v.ReadsBack v.stored where
  null_iff := stored_eq_null_iff hv
  eq_of_kind h := by
    cases v with
    | text s => rfl
    | bytes b => rfl
    | _ => rcases h with h | h <;> cases h
  read? t ht := by
    cases t with
    | required t => exact read?_stored hv ht
    | nullable t =>
      by_cases hnull : v = .null
      · subst hnull
        rfl
      · have hstored : v.stored ≠ .null := mt (stored_eq_null_iff hv).1 hnull
        rw [ColumnType.read?_nullable hstored, ColumnType.read?_nullable hnull]
        exact congrArg (Option.map some) (read?_stored hv ht)

end Stored

end SqlValue

theorem ArgumentCodec.Stores.storage_bindValue {α : Type} [ArgumentCodec α] {storage : α → Storage}
    (h : ArgumentCodec.Stores storage) {v : SqlValue} (hv : v.isNaN = false) :
    storage (bindValue v) = bindValue v := by
  cases v with
  | null => exact h.null
  | bool b => exact h.bool b
  | int8 n => exact h.int8 n
  | int16 n => exact h.int16 n
  | int32 n => exact h.int32 n
  | int64 n => exact h.int64 n
  | float32 x => exact (h.single x hv).trans (if_neg (ne_true_of_eq_false hv)).symm
  | float64 x => exact (h.double x hv).trans (if_neg (ne_true_of_eq_false hv)).symm
  | text s => exact h.text s
  | bytes b => exact h.blob b

namespace ColumnCodec.Reports

variable {ρ : Type} [ColumnCodec ρ] {held : ρ → Storage}

theorem decodeColumn?_eq (h : ColumnCodec.Reports held) (c : ρ) :
    decodeColumn? c = some (held c).value := by
  unfold decodeColumn?
  cases hc : held c with
  | null => exact if_pos ((h.isNull_iff c).2 hc)
  | integer n =>
    obtain ⟨hclass, hread⟩ := h.integer hc
    rw [if_neg (by simp [h.isNull_iff, hc]), hclass, hread]
    rfl
  | real x =>
    obtain ⟨hclass, hread⟩ := h.real hc
    rw [if_neg (by simp [h.isNull_iff, hc]), hclass, hread]
    rfl
  | text s =>
    obtain ⟨hclass, hread⟩ := h.text hc
    rw [if_neg (by simp [h.isNull_iff, hc]), hclass, hread]
    rfl
  | blob b =>
    obtain ⟨hclass, hread⟩ := h.blob hc
    rw [if_neg (by simp [h.isNull_iff, hc]), hclass, hread]
    rfl

/-- Decoding a row fills a buffer that is no wider. -/
theorem decodeRow_eq (h : ColumnCodec.Reports held) {row : List ρ} {buffer : List SqlValue}
    (hwidth : buffer.length ≤ row.length) :
    decodeRow row buffer = (.ok (), (row.take buffer.length).map fun c => (held c).value) := by
  induction buffer generalizing row with
  | nil => simp [decodeRow]
  | cons slot buffer ih =>
    obtain ⟨c, row, rfl⟩ := List.exists_cons_of_length_pos (Nat.zero_lt_of_lt hwidth)
    simp [decodeRow, h.decodeColumn?_eq, ih (Nat.le_of_succ_le_succ hwidth)]

end ColumnCodec.Reports

namespace Storage

theorem stores : ArgumentCodec.Stores (id : Storage → Storage) where
  null := rfl
  bool _ := rfl
  int8 _ := rfl
  int16 _ := rfl
  int32 _ := rfl
  int64 _ := rfl
  single _ h := if_neg (ne_true_of_eq_false h)
  double _ h := if_neg (ne_true_of_eq_false h)
  text _ := rfl
  blob _ := rfl

theorem reports : ColumnCodec.Reports (id : Storage → Storage) where
  isNull_iff _ := decide_eq_true_iff
  integer h := by
    cases h
    exact ⟨rfl, rfl⟩
  real h := by
    cases h
    exact ⟨rfl, rfl⟩
  text h := by
    cases h
    exact ⟨rfl, rfl⟩
  blob h := by
    cases h
    exact ⟨rfl, rfl⟩

end Storage

/-- Whatever else a query is sent and gives back, a value other than a NaN that it gives back
unchanged reads as it did before it was bound. -/
theorem bound_values_read_back {α ρ : Type} [ArgumentCodec α] [ColumnCodec ρ]
    {storage : α → Storage} {held : ρ → Storage} (hstorage : ArgumentCodec.Stores storage)
    (hheld : ColumnCodec.Reports held) (args : List SqlValue) {row : List ρ}
    {buffer : List SqlValue} (hwidth : buffer.length ≤ row.length) :
    ∃ ws, decodeRow row buffer = (.ok (), ws) ∧
      ∀ (i j : Nat) (v : SqlValue), i < buffer.length → args[j]? = some v → v.isNaN = false →
        GivesBack storage held (bindArgs args) row j i → ∃ w, ws[i]? = some w ∧ v.ReadsBack w := by
  refine ⟨_, hheld.decodeRow_eq hwidth, ?_⟩
  rintro i j v hi hv hnan ⟨a, c, ha, hc, hback⟩
  obtain rfl : bindValue v = a := by simpa [bindArgs, hv] using ha
  refine ⟨v.stored, ?_, SqlValue.readsBack_stored hnan⟩
  rw [List.getElem?_map, List.getElem?_take_of_lt hi, hc, Option.map_some, hback,
    hstorage.storage_bindValue hnan, SqlValue.stored]

/-- The least integer of eight bits, a tenth in single precision, the negative zero, a truth value,
a text, bytes that are no text and null, sent together and given back in reverse. -/
theorem bound_values_read_back_in_reverse :
    let args : List SqlValue := [.int8 (-128), .float32 ⟨0x3dcccccd#32⟩,
      .float64 ⟨0x8000000000000000#64⟩, .bool true, .text "'?é", .bytes [0xff], .null]
    let row : List Storage := (bindArgs args).reverse
    ∃ ws, decodeRow row (args.map fun _ => .null) = (.ok (), ws) ∧
      ∀ (j : Nat) (v : SqlValue), args[j]? = some v →
        ∃ w, ws[6 - j]? = some w ∧ v.ReadsBack w := by
  intro args row
  have hwidth : (args.map fun _ => SqlValue.null).length ≤ row.length := by decide
  have hnan : ∀ v ∈ args, v.isNaN = false := by decide
  obtain ⟨ws, hdecode, hback⟩ := bound_values_read_back Storage.stores Storage.reports args hwidth
  refine ⟨ws, hdecode, fun j v hv => ?_⟩
  have hj : j < 7 := (List.getElem?_eq_some_iff.1 hv).1
  have hsent : (bindArgs args : List Storage)[j]? = some (bindValue v) := by simp [bindArgs, hv]
  have hrow : row[6 - j]? = some (bindValue v) := by
    rw [← hsent, List.getElem?_reverse (Nat.lt_of_le_of_lt (Nat.sub_le 6 j) (by decide))]
    congr 1
    exact Nat.sub_sub_self (Nat.le_of_lt_succ hj)
  exact hback _ j v (Nat.lt_of_le_of_lt (Nat.sub_le 6 j) (by decide)) hv
    (hnan v (List.mem_of_getElem? hv)) ⟨_, _, hsent, hrow, rfl⟩

/-- A NaN comes back as null. -/
example : (SqlValue.float32 ⟨0x7fc00000#32⟩).stored = .null := by decide +kernel

end BoundQuery
