import BoundQuery.Ieee.Value
import BoundQuery.Ieee.Widening
import BoundQuery.SqlValue.Signed

/-!
# Integers from floats

A signed type reads a float just if the float is finite and its exact value,
truncated toward zero, lies in the type's range; then that truncation is what it
reads. Nothing saturates and no NaN becomes zero. A single is widened before it
is truncated, which changes nothing.
-/

namespace BoundQuery

open Ieee (Number Single Double truncation)

namespace SqlValue

/-- How the signed types read a value that stands for a rational, or for none. -/
structure ReadsTruncated (v : SqlValue) (x : Option ℚ) : Prop where
  read_iff : ∀ (t : SignedType) (n : ℤ), t.read? v = some n ↔
    ∃ q, x = some q ∧ truncation q = n ∧ t.least ≤ n ∧ n ≤ t.greatest
  /-- Infinities and NaNs are refused. -/
  refused_of_none : x = none → ∀ t : SignedType, t.read? v = none
  refused_of_range : ∀ q, x = some q → ∀ t : SignedType,
    truncation q < t.least ∨ t.greatest < truncation q → t.read? v = none
  /-- Whatever is closer to zero than one reads as zero. -/
  below_one : ∀ q, x = some q → -1 < q → q < 1 → ∀ t : SignedType, t.read? v = some 0
  /-- The lower bound of 64 bits is included. -/
  least_included : x = some (-2 ^ 63) → SignedType.int64.read? v = some (-2 ^ 63)
  /-- The nearest double to the upper bound is one too many. -/
  limit_refused : x = some (2 ^ 63) → ∀ t : SignedType, t.read? v = none

theorem truncation_limit : truncation (2 ^ 63) = 2 ^ 63 := by
  have hcast := Ieee.truncation_intCast (2 ^ 63 : ℤ)
  rwa [Int.cast_pow, Int.cast_ofNat] at hcast

/-- One equation settles how every signed type reads a float. -/
theorem readsTruncated_of_read_iff {v : SqlValue} {x : Option ℚ}
    (h : ∀ (t : SignedType) (n : ℤ), t.read? v = some n ↔
      x.map truncation = some n ∧ t.least ≤ n ∧ n ≤ t.greatest) : v.ReadsTruncated x := by
  have hout : ∀ q, x = some q → ∀ t : SignedType,
      truncation q < t.least ∨ t.greatest < truncation q → t.read? v = none := by
    rintro q rfl t hrange
    apply Option.eq_none_iff_forall_ne_some.2
    intro n hread
    obtain ⟨hn, hlow, hhigh⟩ := (h t n).1 hread
    have hn := Option.some.inj hn
    omega
  constructor
  case read_iff =>
    intro t n
    rw [h]
    constructor
    · rintro ⟨hn, hrange⟩
      obtain ⟨q, hq, hqn⟩ := Option.map_eq_some_iff.1 hn
      exact ⟨q, hq, hqn, hrange⟩
    · rintro ⟨q, rfl, hqn, hrange⟩
      exact ⟨congrArg some hqn, hrange⟩
  case refused_of_none =>
    rintro rfl t
    apply Option.eq_none_iff_forall_ne_some.2
    intro n hread
    cases ((h t n).1 hread).1
  case refused_of_range => exact hout
  case below_one =>
    rintro q rfl hlow hhigh t
    rw [h, Option.map_some, Ieee.truncation_eq_zero hlow hhigh]
    exact ⟨rfl, by cases t <;> decide⟩
  case least_included =>
    rintro rfl
    rw [h, Option.map_some, Ieee.truncation_neg, truncation_limit]
    exact ⟨rfl, by decide⟩
  case limit_refused =>
    intro hx t
    apply hout _ hx
    rw [truncation_limit]
    exact Or.inr (by cases t <;> decide)

theorem readInt?_float64 (x : Double) :
    (SqlValue.float64 x).readInt? = x.truncate?.filter (inRange 64) :=
  map_toInt_eq_filter fun _ => Number.toInt64?_eq_some_iff

theorem readInt?_float32 (x : Single) :
    (SqlValue.float32 x).readInt? = x.truncate?.filter (inRange 64) := by
  rw [← Number.truncate?_convert]
  exact readInt?_float64 x.convert

/-- Every signed type reads the truncation of a float's exact value, and refuses the float where
there is none in its range. -/
theorem floats_readTruncated :
    (∀ x : Double, (SqlValue.float64 x).ReadsTruncated x.value?) ∧
      ∀ x : Single, (SqlValue.float32 x).ReadsTruncated x.value? := by
  constructor
  · intro x
    apply readsTruncated_of_read_iff
    intro t n
    rw [← Number.truncate?_eq x (by decide)]
    exact SignedType.read?_eq_some_iff_of_filter (readInt?_float64 x)
  · intro x
    apply readsTruncated_of_read_iff
    intro t n
    rw [← Number.truncate?_eq x (by decide)]
    exact SignedType.read?_eq_some_iff_of_filter (readInt?_float32 x)

/-- The negative zero. -/
example : SignedType.int8.read? (.float64 ⟨0x8000000000000000#64⟩) = some 0 := by decide +kernel

/-- The largest double below one. -/
example : SignedType.int8.read? (.float64 ⟨0x3fefffffffffffff#64⟩) = some 0 := by decide +kernel

/-- Two to the power 63, as a double and as a single, and its opposite. -/
example : SignedType.int64.read? (.float64 ⟨0x43e0000000000000#64⟩) = none ∧
    SignedType.int64.read? (.float32 ⟨0x5f000000#32⟩) = none ∧
    SignedType.int64.read? (.float32 ⟨0xdf000000#32⟩) = some (-9223372036854775808) := by
  decide +kernel

end SqlValue
end BoundQuery
