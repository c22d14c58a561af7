import BoundQuery.SqlValue.Reading

/-!
# Signed integers of each width

The four signed types read through one function of 64 bits. They differ only in
the range they accept, which is the range of their width.
-/

namespace BoundQuery

/-- The signed types that a column can be read as. -/
inductive SignedType where
  | int8 | int16 | int32 | int64
  deriving DecidableEq, Repr

namespace SignedType

def bits : SignedType → Nat
  | .int8 => 8
  | .int16 => 16
  | .int32 => 32
  | .int64 => 64

def content : SignedType → ContentType
  | .int8 => .int8
  | .int16 => .int16
  | .int32 => .int32
  | .int64 => .int64

def toInt : (t : SignedType) → t.content.Carrier → Int
  | .int8, n => Int8.toInt n
  | .int16, n => Int16.toInt n
  | .int32, n => Int32.toInt n
  | .int64, n => Int64.toInt n

variable (t : SignedType)

def least : Int := -(Nat.pow 2 (t.bits - 1) : Nat)

def greatest : Int := (Nat.pow 2 (t.bits - 1) : Nat) - 1

/-- What the type reads from a value, as an integer. -/
def read? (v : SqlValue) : Option Int := (t.content.read? v).map t.toInt

theorem inRange_bits_iff {n : Int} :
    SqlValue.inRange t.bits n = true ↔ t.least ≤ n ∧ n ≤ t.greatest := by
  rw [SqlValue.inRange_iff, least, greatest]
  omega

theorem inRange_of_mem {n : Int} (h : t.least ≤ n ∧ n ≤ t.greatest) :
    SqlValue.inRange 64 n = true := by
  have hleast : SignedType.int64.least ≤ t.least := by cases t <;> decide
  have hgreatest : t.greatest ≤ SignedType.int64.greatest := by cases t <;> decide
  exact SignedType.int64.inRange_bits_iff.2
    ⟨Int.le_trans hleast h.1, Int.le_trans h.2 hgreatest⟩

end SignedType

namespace SqlValue

/-- What is read before narrowing already has 64 bits. -/
theorem inRange_of_readInt? {v : SqlValue} {n : Int} (h : v.readInt? = some n) :
    inRange 64 n = true := by
  have hmachine : ∀ m : Int64, inRange 64 m.toInt = true := fun m =>
    inRange_iff.2 ⟨m.le_toInt, m.toInt_lt⟩
  cases v with
  | int8 m =>
    cases h
    exact SignedType.int8.inRange_of_mem ⟨m.le_toInt, Int.le_of_lt_add_one m.toInt_lt⟩
  | int16 m =>
    cases h
    exact SignedType.int16.inRange_of_mem ⟨m.le_toInt, Int.le_of_lt_add_one m.toInt_lt⟩
  | int32 m =>
    cases h
    exact SignedType.int32.inRange_of_mem ⟨m.le_toInt, Int.le_of_lt_add_one m.toInt_lt⟩
  | int64 m =>
    cases h
    exact hmachine m
  | float32 x =>
    obtain ⟨m, _, rfl⟩ := Option.map_eq_some_iff.1 h
    exact hmachine m
  | float64 x =>
    obtain ⟨m, _, rfl⟩ := Option.map_eq_some_iff.1 h
    exact hmachine m
  | bytes b =>
    obtain ⟨m, _, rfl⟩ := Option.map_eq_some_iff.1 h
    exact hmachine m
  | _ => cases h

theorem readInt64?_eq (v : SqlValue) :
    v.readInt64? = (v.readInt?.filter (inRange 64)).map Int64.ofInt := by
  have hfilter : v.readInt?.filter (inRange 64) = v.readInt? := by
    cases h : v.readInt? with
    | none => rfl
    | some n => rw [Option.filter_some, if_pos (inRange_of_readInt? h)]
  rw [readInt64?, hfilter]

end SqlValue

namespace SignedType

theorem map_narrowed_eq_some_iff {bits : Nat} {α : Type} {ofInt : Int → α} {toInt : α → Int}
    (hback : ∀ n, SqlValue.inRange bits n = true → toInt (ofInt n) = n) {o : Option Int} {n : Int} :
    ((o.filter (SqlValue.inRange bits)).map ofInt).map toInt = some n ↔
      o = some n ∧ SqlValue.inRange bits n = true := by
  rw [Option.map_map]
  constructor
  · intro h
    obtain ⟨m, hm, hmn⟩ := Option.map_eq_some_iff.1 h
    obtain ⟨ho, hrange⟩ := Option.filter_eq_some_iff.1 hm
    have heq : m = n := (hback m hrange).symm.trans hmn
    exact heq ▸ ⟨ho, hrange⟩
  · rintro ⟨rfl, hrange⟩
    rw [Option.filter_some, if_pos hrange, Option.map_some, Function.comp_apply, hback n hrange]

theorem read?_eq_some_iff {t : SignedType} {v : SqlValue} {n : Int} :
    t.read? v = some n ↔ v.readInt? = some n ∧ t.least ≤ n ∧ n ≤ t.greatest := by
  rw [← inRange_bits_iff]
  cases t with
  | int8 =>
    refine map_narrowed_eq_some_iff fun m hm => ?_
    exact Int8.toInt_ofInt_of_le (SqlValue.inRange_iff.1 hm).1 (SqlValue.inRange_iff.1 hm).2
  | int16 =>
    refine map_narrowed_eq_some_iff fun m hm => ?_
    exact Int16.toInt_ofInt_of_le (SqlValue.inRange_iff.1 hm).1 (SqlValue.inRange_iff.1 hm).2
  | int32 =>
    refine map_narrowed_eq_some_iff fun m hm => ?_
    exact Int32.toInt_ofInt_of_le (SqlValue.inRange_iff.1 hm).1 (SqlValue.inRange_iff.1 hm).2
  | int64 =>
    have hread : SignedType.int64.read? v = v.readInt64?.map Int64.toInt := rfl
    rw [hread, SqlValue.readInt64?_eq]
    refine map_narrowed_eq_some_iff fun m hm => ?_
    exact Int64.toInt_ofInt_of_le (SqlValue.inRange_iff.1 hm).1 (SqlValue.inRange_iff.1 hm).2

/-- Where the 64 bits were cut out of any integer, only the type's own range counts. -/
theorem read?_eq_some_iff_of_filter {t : SignedType} {v : SqlValue} {o : Option Int} {n : Int}
    (h : v.readInt? = o.filter (SqlValue.inRange 64)) :
    t.read? v = some n ↔ o = some n ∧ t.least ≤ n ∧ n ≤ t.greatest := by
  rw [read?_eq_some_iff, h, Option.filter_eq_some_iff, and_assoc, and_iff_right_of_imp t.inRange_of_mem]

end SignedType
end BoundQuery
