import BoundQuery.Ieee.Order
import BoundQuery.Ieee.Rounding

/-!
# Integers from numbers

Truncation clears the bits of a pattern that count for less than one, which
rounds toward zero. A number becomes an integer of 64 bits by truncation if it is
finite and its truncation, compared as a number, is from the least such integer
up to the greatest. As a number the greatest is two to the power 63, which is
one too many, so that bound is excluded while the lower one is included.
-/

namespace BoundQuery
namespace Ieee

namespace Format

variable (f : Format)

/-- The exponent field of the numbers from one up to two. -/
def bias : Nat := Nat.pow 2 (f.exponentBits - 1) - 1

/-- Clears the bits of a pattern without its sign that count for less than one. -/
def truncCode (code : Nat) : Nat :=
  let exponent := code / f.binade
  if exponent < f.bias then 0
  else
    let below := Nat.pow 2 (f.fractionBits - (exponent - f.bias))
    code / below * below

theorem truncCode_le (code : Nat) : f.truncCode code ≤ code := by
  unfold truncCode
  dsimp only
  split
  · exact Nat.zero_le _
  · exact Nat.div_mul_le_self _ _

variable {f}

theorem bias_pos (h : 2 ≤ f.exponentBits) : 0 < f.bias := by
  have hpow : 2 ^ 1 ≤ 2 ^ (f.exponentBits - 1) := Nat.pow_le_pow_right (by decide) (by omega)
  rw [bias, Nat.pow_eq]
  omega

theorem one_eq (h : 2 ≤ f.exponentBits) : f.one = f.binade * Nat.pow 2 (f.bias - 1) := by
  have hpos := bias_pos h
  have hexponent : f.unitExponent = f.fractionBits + (f.bias - 1) := by
    have hbias : f.bias = Nat.pow 2 (f.exponentBits - 1) - 1 := rfl
    rw [unitExponent]
    omega
  rw [one, hexponent, binade_eq]
  exact Nat.pow_add 2 _ _

theorem units_lt_one {code : Nat} (h : 2 ≤ f.exponentBits) (hcode : code / f.binade < f.bias) :
    f.units code < f.one := by
  have hpos := bias_pos h
  have hbias : f.bias - 1 + 1 = f.bias := by omega
  rw [one_eq h, ← units_power, hbias]
  exact units_lt_units ((Nat.div_lt_iff_lt_mul f.binade_pos).1 hcode)

/-- Clearing the bits below some place clears them in the last term alone, if the others have none
there. -/
theorem clear_mul_add {below b : Nat} (hdvd : below ∣ b) (hpos : 0 < below) (k n : Nat) :
    (k * b + n) / below * below = k * b + n / below * below := by
  obtain ⟨q, rfl⟩ := hdvd
  have hterm : k * (below * q) = below * (k * q) := Nat.mul_left_comm k below q
  rw [hterm, Nat.mul_add_div hpos, Nat.add_mul, Nat.mul_comm below]

/-- The whole part of a significand that counts for `2 ^ shift` binades above one, the bits of the
fraction below the point cleared. -/
theorem whole_significand {fraction : Nat} (shift : Nat) :
    let below := Nat.pow 2 (f.fractionBits - shift)
    (f.binade + fraction) * Nat.pow 2 shift / f.binade * f.binade =
      (f.binade + fraction / below * below) * Nat.pow 2 shift := by
  intro below
  rcases Nat.le_total shift f.fractionBits with hle | hge
  · have hbinade : f.binade = below * Nat.pow 2 shift := by
      have hsplit := Nat.pow_add 2 (f.fractionBits - shift) shift
      rwa [Nat.sub_add_cancel hle] at hsplit
    have hclear := clear_mul_add ⟨_, hbinade⟩ (Nat.two_pow_pos _) 1 fraction
    rw [Nat.one_mul] at hclear
    have hdiv : (f.binade + fraction) * Nat.pow 2 shift / f.binade = (f.binade + fraction) / below := by
      conv => lhs; arg 2; rw [hbinade]
      exact Nat.mul_div_mul_right _ _ (Nat.two_pow_pos _)
    rw [hdiv, ← hclear, Nat.mul_assoc, ← hbinade]
  · have hbelow : below = 1 := congrArg (Nat.pow 2) (Nat.sub_eq_zero_of_le hge)
    have hdvd : f.binade ∣ (f.binade + fraction) * Nat.pow 2 shift :=
      Nat.dvd_mul_left_of_dvd (Nat.pow_dvd_pow 2 hge) _
    rw [Nat.div_mul_cancel hdvd, hbelow, Nat.div_one, Nat.mul_one]

theorem units_truncCode (h : 2 ≤ f.exponentBits) (code : Nat) :
    f.units (f.truncCode code) = f.units code / f.one * f.one := by
  have hbias := bias_pos h
  unfold truncCode
  dsimp only
  split
  · next hsmall =>
    rw [Nat.div_eq_of_lt (units_lt_one h hsmall), Nat.zero_mul]
    exact units_subnormal f.binade_pos
  · next hlarge =>
    rcases f.fields_cases code with hcode | ⟨exponent, fraction, hfraction, rfl⟩
    · rw [Nat.div_eq_of_lt hcode] at hlarge
      omega
    · rw [fields_div hfraction] at hlarge ⊢
      obtain ⟨shift, hshift⟩ := Nat.exists_eq_add_of_le (Nat.not_lt.1 hlarge)
      have hbelow : exponent + 1 - f.bias = shift := by omega
      have hpow : ∀ m, m * Nat.pow 2 exponent = m * Nat.pow 2 shift * Nat.pow 2 (f.bias - 1) := by
        intro m
        have hexponent : exponent = shift + (f.bias - 1) := by omega
        rw [hexponent, Nat.mul_assoc]
        exact congrArg (m * ·) (Nat.pow_add 2 _ _)
      have hone : 0 < Nat.pow 2 (f.bias - 1) := Nat.two_pow_pos _
      have hdvd : Nat.pow 2 (f.fractionBits - shift) ∣ f.binade := Nat.pow_dvd_pow 2 (Nat.sub_le _ _)
      have hkept : fraction / Nat.pow 2 (f.fractionBits - shift) *
          Nat.pow 2 (f.fractionBits - shift) < f.binade :=
        Nat.lt_of_le_of_lt (Nat.div_mul_le_self _ _) hfraction
      rw [hbelow, clear_mul_add hdvd (Nat.two_pow_pos _), units_normal hkept,
        units_normal hfraction, one_eq h, hpow, hpow, Nat.mul_div_mul_right _ _ hone,
        ← Nat.mul_assoc, whole_significand]

end Format

namespace Number

variable {f : Format}

/-- Rounds toward zero to a number without a fraction. What is not finite stays. -/
def trunc (x : Number f) : Number f := ofCode x.negative (f.truncCode x.code)

/-- The nearest 64-bit integer to the integer part; zero for a NaN. -/
def toInt64 (x : Number f) : Int64 :=
  match x.truncate? with
  | some n => Int64.ofIntClamp n
  | none => if x.isNaN then 0 else if x.negative then Int64.minValue else Int64.maxValue

/-- The integer part, if it has one of 64 bits. -/
def toInt64? (x : Number f) : Option Int64 :=
  let whole := x.trunc
  if x.isFinite && le (ofInt Int64.minValue.toInt) whole && lt whole (ofInt Int64.maxValue.toInt) then
    some whole.toInt64
  else none

theorem truncate?_of_isFinite {x : Number f} (h : x.isFinite = true) :
    x.truncate? = some (if x.negative then -((f.units x.code / f.one : Nat) : Int)
      else (f.units x.code / f.one : Nat)) := by
  rw [truncate?, datum_of_isFinite h]

theorem truncate?_of_not_isFinite {x : Number f} (h : x.isFinite = false) : x.truncate? = none := by
  unfold truncate?
  split
  · next hdatum => cases h.symm.trans (isFinite_of_datum hdatum)
  · rfl

theorem code_trunc (x : Number f) : x.trunc.code = f.truncCode x.code :=
  code_ofCode (Nat.lt_of_le_of_lt (f.truncCode_le _) x.code_lt_codes) _

theorem negative_trunc (x : Number f) : x.trunc.negative = x.negative :=
  negative_ofCode (Nat.lt_of_le_of_lt (f.truncCode_le _) x.code_lt_codes) _

theorem isFinite_trunc {x : Number f} (h : x.isFinite = true) : x.trunc.isFinite = true := by
  rw [isFinite_iff, code_trunc]
  exact Nat.lt_of_le_of_lt (f.truncCode_le _) (isFinite_iff.1 h)

theorem truncate?_trunc {x : Number f} (hf : 2 ≤ f.exponentBits) (h : x.isFinite = true) :
    x.trunc.truncate? = x.truncate? := by
  rw [truncate?_of_isFinite (isFinite_trunc h), truncate?_of_isFinite h, negative_trunc, code_trunc,
    Format.units_truncCode hf, Nat.mul_div_cancel _ (Format.one_pos _)]

section Double

theorem ofInt_minValue : (ofInt Int64.minValue.toInt : Double) = ⟨0xc3e0000000000000#64⟩ := by
  decide +kernel

/-- The greatest integer of 64 bits is no double; the nearest is one more. -/
theorem ofInt_maxValue : (ofInt Int64.maxValue.toInt : Double) = ⟨0x43e0000000000000#64⟩ := by
  decide +kernel

theorem rank_least : (⟨0xc3e0000000000000#64⟩ : Double).rank = -0x43e0000000000000 := by
  decide +kernel

theorem rank_limit : (⟨0x43e0000000000000#64⟩ : Double).rank = 0x43e0000000000000 := by
  decide +kernel

theorem units_limit :
    Format.double.units 0x43e0000000000000 = 0x8000000000000000 * Format.double.one := by
  decide +kernel

/-- The truncation, compared as a number with both bounds, passes just if it has 64 bits. -/
theorem between_bounds_iff {x : Double} (h : x.isFinite = true) {n : Int}
    (hn : x.truncate? = some n) :
    (le (ofInt Int64.minValue.toInt) x.trunc && lt x.trunc (ofInt Int64.maxValue.toInt)) = true ↔
      Int64.minValue.toInt ≤ n ∧ n ≤ Int64.maxValue.toInt := by
  have hunits := Format.units_truncCode (f := .double) (by decide) x.code
  rw [← x.code_trunc] at hunits
  have hlt : x.trunc.code < 0x43e0000000000000 ↔
      Format.double.units x.code / Format.double.one < 0x8000000000000000 := by
    rw [← Format.units_lt_units_iff, hunits, units_limit, Nat.mul_lt_mul_right (Format.one_pos _)]
  have hle : x.trunc.code ≤ 0x43e0000000000000 ↔
      Format.double.units x.code / Format.double.one ≤ 0x8000000000000000 := by
    rw [← Format.units_le_units_iff, hunits, units_limit, Nat.mul_le_mul_right_iff (Format.one_pos _)]
  have hnan := isNaN_of_isFinite (isFinite_trunc h)
  rw [truncate?_of_isFinite h] at hn
  rw [Bool.and_eq_true, ofInt_minValue, ofInt_maxValue, le_iff (by decide +kernel) hnan,
    lt_iff hnan (by decide +kernel), rank_least, rank_limit, rank, negative_trunc,
    Int64.toInt_minValue, Int64.toInt_maxValue]
  clear hunits
  generalize Format.double.units x.code / Format.double.one = whole at *
  -- a negative number is below the upper bound in any case, and any other above the lower one
  cases hsign : x.negative
  · rw [hsign, if_neg Bool.false_ne_true] at hn
    rw [if_neg Bool.false_ne_true]
    have hwhole := Option.some.inj hn
    omega
  · rw [hsign, if_pos rfl] at hn
    rw [if_pos rfl]
    have hwhole := Option.some.inj hn
    omega

theorem toInt64?_eq_some_iff {x : Double} {n : Int64} :
    x.toInt64? = some n ↔ x.truncate? = some n.toInt := by
  unfold toInt64?
  dsimp only
  cases hfinite : x.isFinite with
  | false => simp [truncate?_of_not_isFinite hfinite]
  | true =>
    have hpart := truncate?_of_isFinite hfinite
    generalize (if x.negative then _ else _ : Int) = part at hpart
    have hwhole := truncate?_trunc (by decide) hfinite
    have hclamp : x.trunc.toInt64 = Int64.ofIntClamp part := by
      rw [toInt64, hwhole, hpart]
    rw [Bool.true_and, hclamp, hpart]
    constructor
    · intro h
      obtain ⟨hbounds, hclamped⟩ := Option.ite_none_right_eq_some.1 h
      obtain ⟨hlow, hhigh⟩ := (between_bounds_iff hfinite hpart).1 hbounds
      rw [← Option.some.inj hclamped, Int64.toInt_ofIntClamp hlow hhigh]
    · intro h
      cases Option.some.inj h
      rw [if_pos ((between_bounds_iff hfinite hpart).2 ⟨n.minValue_le_toInt, n.toInt_le⟩),
        n.ofIntClamp_toInt]

end Double

end Number
end Ieee
end BoundQuery
