import BoundQuery.Ieee.Truncation
import Mathlib.Data.Rat.Floor
import Mathlib.Tactic.FieldSimp

/-!
# Exact values

A finite number stands for a rational, which its three fields spell: the sign,
the fraction with or without a leading one, and a power of two. This is that
rational in units, so its truncation toward zero is the integer part.
-/

namespace BoundQuery
namespace Ieee

def truncation (q : ℚ) : ℤ := if q < 0 then ⌈q⌉ else ⌊q⌋

theorem truncation_natCast_div (a b : ℕ) : truncation ((a : ℚ) / b) = (a / b : ℕ) := by
  have hnonneg : ¬ (a : ℚ) / b < 0 := not_lt.2 (by positivity)
  rw [truncation, if_neg hnonneg, Rat.floor_natCast_div_natCast]
  rfl

theorem truncation_neg (q : ℚ) : truncation (-q) = -truncation q := by
  unfold truncation
  rcases lt_trichotomy q 0 with hneg | rfl | hpos
  · rw [if_pos hneg, if_neg (by linarith), Int.floor_neg]
  · simp
  · rw [if_neg (not_lt.2 hpos.le), if_pos (by linarith), Int.ceil_neg]

theorem truncation_eq_zero {q : ℚ} (hlow : -1 < q) (hhigh : q < 1) : truncation q = 0 := by
  unfold truncation
  split
  · next hneg =>
    rw [Int.ceil_eq_zero_iff]
    exact ⟨hlow, hneg.le⟩
  · next hnonneg =>
    rw [Int.floor_eq_zero_iff]
    exact ⟨not_lt.1 hnonneg, hhigh⟩

theorem truncation_intCast (n : ℤ) : truncation (n : ℚ) = n := by
  simp [truncation]

namespace Number

variable {f : Format}

def exponentField (x : Number f) : ℕ := (x.bits.extractLsb' f.fractionBits f.exponentBits).toNat

def fractionField (x : Number f) : ℕ := (x.bits.extractLsb' 0 f.fractionBits).toNat

/-- The rational that a number stands for, if the exponent field is not all ones. -/
def value? (x : Number f) : Option ℚ :=
  let sign : ℚ := if x.bits.msb then -1 else 1
  let fraction : ℚ := x.fractionField / 2 ^ f.fractionBits
  if x.exponentField = 2 ^ f.exponentBits - 1 then none
  else if x.exponentField = 0 then some (sign * fraction * 2 ^ (1 - (f.bias : ℤ)))
  else some (sign * (1 + fraction) * 2 ^ ((x.exponentField : ℤ) - f.bias))

theorem exponentField_eq (x : Number f) : x.exponentField = x.code / f.binade := by
  rw [exponentField, BitVec.extractLsb'_toNat, Nat.shiftRight_eq_div_pow, code, Format.codes_eq,
    Nat.pow_eq, Nat.pow_add, Format.binade_eq, Nat.pow_eq, Nat.mod_mul_right_div_self]

theorem fractionField_eq (x : Number f) : x.fractionField = x.code % f.binade := by
  rw [fractionField, BitVec.extractLsb'_toNat, Nat.shiftRight_zero, code, Format.codes_eq,
    Nat.pow_eq, Nat.pow_add, Format.binade_eq, Nat.pow_eq, Nat.mod_mul_right_mod]

theorem exponentField_lt (x : Number f) : x.exponentField < 2 ^ f.exponentBits := BitVec.isLt _

theorem isFinite_iff_exponentField {x : Number f} :
    x.isFinite = true ↔ x.exponentField ≠ 2 ^ f.exponentBits - 1 := by
  have hfield := x.exponentField_lt
  have hinfinity : f.infinityCode = (2 ^ f.exponentBits - 1) * f.binade := rfl
  rw [isFinite_iff, hinfinity, ← Nat.div_lt_iff_lt_mul f.binade_pos, ← exponentField_eq]
  omega

/-- The fields of a finite number spell its magnitude in units. -/
theorem value?_of_isFinite {x : Number f} (hf : 2 ≤ f.exponentBits) (h : x.isFinite = true) :
    x.value? = some ((if x.negative then -1 else 1) * ((f.units x.code : ℚ) / f.one)) := by
  have hfinite := isFinite_iff_exponentField.1 h
  have hbias := Format.bias_pos hf
  have hone : (f.one : ℚ) = 2 ^ f.fractionBits * 2 ^ (f.bias - 1) := by
    rw [Format.one_eq hf, Format.binade_eq, Nat.pow_eq, Nat.pow_eq]
    push_cast
    rfl
  unfold value?
  dsimp only
  rw [if_neg hfinite, hone, exponentField_eq, fractionField_eq, negative]
  generalize (if x.bits.msb = true then -1 else 1 : ℚ) = sign
  rcases f.fields_cases x.code with hcode | ⟨exponent, fraction, hfraction, hcode⟩
  · have hpower : (2 : ℚ) ^ (1 - (f.bias : ℤ)) = (2 ^ (f.bias - 1))⁻¹ := by
      have hexponent : 1 - (f.bias : ℤ) = -((f.bias - 1 : ℕ) : ℤ) := by omega
      rw [hexponent, zpow_neg, zpow_natCast]
    rw [Nat.div_eq_of_lt hcode, if_pos rfl, Nat.mod_eq_of_lt hcode, Format.units_subnormal hcode,
      hpower]
    congr 1
    field_simp
  · have hpower : (2 : ℚ) ^ (((exponent + 1 : ℕ) : ℤ) - f.bias) = 2 ^ exponent / 2 ^ (f.bias - 1) := by
      have hexponent : ((exponent + 1 : ℕ) : ℤ) - f.bias = (exponent : ℤ) - (f.bias - 1 : ℕ) := by omega
      rw [hexponent, zpow_sub₀ two_ne_zero, zpow_natCast, zpow_natCast]
    rw [hcode, Format.fields_div hfraction, if_neg (Nat.succ_ne_zero _), Format.fields_mod hfraction,
      Format.units_normal hfraction, hpower, Format.binade_eq, Nat.pow_eq, Nat.pow_eq]
    congr 1
    push_cast
    field_simp

theorem value?_of_not_isFinite {x : Number f} (h : x.isFinite = false) : x.value? = none := by
  have hfield : x.exponentField = 2 ^ f.exponentBits - 1 := by
    by_contra hne
    cases h.symm.trans (isFinite_iff_exponentField.2 hne)
  exact if_pos hfield

theorem truncate?_eq (x : Number f) (hf : 2 ≤ f.exponentBits) :
    x.truncate? = x.value?.map truncation := by
  cases h : x.isFinite with
  | false => rw [truncate?_of_not_isFinite h, value?_of_not_isFinite h, Option.map_none]
  | true =>
    rw [truncate?_of_isFinite h, value?_of_isFinite hf h, Option.map_some]
    split
    · rw [neg_one_mul, truncation_neg, truncation_natCast_div]
    · rw [one_mul, truncation_natCast_div]

end Number
end Ieee
end BoundQuery
