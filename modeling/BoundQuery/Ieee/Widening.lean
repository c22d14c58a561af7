import BoundQuery.Ieee.Order
import BoundQuery.Ieee.Rounding

/-!
# Exact conversions

A magnitude that a format has is its own nearest one there. Every finite single
is a magnitude of the doubles too, so widening changes no value.
-/

namespace BoundQuery
namespace Ieee

namespace Format

variable {f : Format}

theorem log2_units_subnormal {code : Nat} (h : code < f.binade) : code.log2 - f.fractionBits = 0 := by
  rcases Nat.eq_zero_or_pos code with rfl | hpos
  · rw [Nat.log2_zero, Nat.zero_sub]
  · have hlt := (Nat.log2_lt (Nat.ne_of_gt hpos)).2 h
    omega

theorem log2_units_normal {fraction : Nat} (h : fraction < f.binade) (exponent : Nat) :
    ((f.binade + fraction) * Nat.pow 2 exponent).log2 - f.fractionBits = exponent := by
  have hpos := f.binade_pos
  have hne : (f.binade + fraction) * Nat.pow 2 exponent ≠ 0 :=
    Nat.ne_of_gt (Nat.mul_pos (by omega) (Nat.two_pow_pos _))
  have hlow : 2 ^ (f.fractionBits + exponent) ≤ (f.binade + fraction) * Nat.pow 2 exponent := by
    rw [Nat.pow_add, ← Nat.pow_eq, ← Nat.pow_eq, ← binade_eq]
    exact Nat.mul_le_mul_right _ (Nat.le_add_right _ _)
  have hhigh : (f.binade + fraction) * Nat.pow 2 exponent < 2 ^ (f.fractionBits + exponent + 1) := by
    rw [Nat.pow_succ, Nat.pow_add, ← Nat.pow_eq, ← Nat.pow_eq, ← binade_eq, Nat.mul_right_comm]
    exact Nat.mul_lt_mul_of_pos_right (by omega) (Nat.two_pow_pos _)
  rw [(Nat.log2_eq_iff hne).2 ⟨hlow, hhigh⟩]
  omega

theorem ofRatio_of_units {num den code : Nat} (hden : 0 < den) (hcode : code ≤ f.infinityCode)
    (h : num * f.one = f.units code * den) : f.ofRatio num den = code := by
  unfold ofRatio
  dsimp only
  rw [h, Nat.mul_div_cancel _ hden]
  rcases f.fields_cases code with hlt | ⟨exponent, fraction, hfraction, rfl⟩
  · rw [units_subnormal hlt, log2_units_subnormal hlt, Nat.zero_mul, Nat.zero_add, Nat.pow_eq,
      Nat.pow_zero, Nat.mul_one, roundHalfEven_mul _ _ hden, Nat.min_eq_right hcode]
  · have hscaled : (f.binade + fraction) * Nat.pow 2 exponent * den =
        (f.binade + fraction) * (den * Nat.pow 2 exponent) := by
      rw [Nat.mul_assoc, Nat.mul_comm den]
    have hpos : 0 < den * Nat.pow 2 exponent := Nat.mul_pos hden (Nat.two_pow_pos _)
    rw [units_normal hfraction, log2_units_normal hfraction, hscaled,
      roundHalfEven_mul _ _ hpos, ← Nat.add_assoc, ← Nat.succ_mul]
    exact Nat.min_eq_right hcode

/-- Every significand, shifted by any number of places, is a magnitude of the format. -/
theorem exists_units_eq {significand : Nat} (h : significand < 2 * f.binade) (shift : Nat) :
    ∃ code, f.units code = significand * Nat.pow 2 shift := by
  induction shift generalizing significand with
  | zero =>
    rw [Nat.pow_eq, Nat.pow_zero, Nat.mul_one]
    rcases Nat.lt_or_ge significand f.binade with hlt | hge
    · exact ⟨significand, units_subnormal hlt⟩
    · refine ⟨(0 + 1) * f.binade + (significand - f.binade), ?_⟩
      rw [units_normal (by omega), Nat.add_sub_cancel' hge, Nat.pow_eq, Nat.pow_zero, Nat.mul_one]
  | succ shift ih =>
    -- a short significand takes one place of the shift for itself
    rcases Nat.lt_or_ge significand f.binade with hlt | hge
    · have hdoubled : 2 * significand < 2 * f.binade := by omega
      obtain ⟨code, hcode⟩ := ih hdoubled
      refine ⟨code, hcode.trans ?_⟩
      rw [Nat.pow_eq, Nat.pow_eq, Nat.pow_succ, Nat.mul_comm 2, Nat.mul_assoc, Nat.mul_comm 2]
    · refine ⟨(shift + 1 + 1) * f.binade + (significand - f.binade), ?_⟩
      rw [units_normal (by omega), Nat.add_sub_cancel' hge]

/-- The unit of a format, counted in those of a finer one. -/
def unitsIn (f g : Format) : Nat := Nat.pow 2 (g.unitExponent - f.unitExponent)

theorem unitsIn_pos (f g : Format) : 0 < f.unitsIn g := Nat.two_pow_pos _

/-- A finer format has the shifted significands of a coarser one that are not too long for it. -/
theorem exists_units_eq_mul_unitsIn {g : Format} {significand : Nat}
    (h : significand < 2 * g.binade) (shift : Nat) :
    ∃ code, g.units code = significand * Nat.pow 2 shift * f.unitsIn g := by
  obtain ⟨code, hcode⟩ := exists_units_eq h (shift + (g.unitExponent - f.unitExponent))
  refine ⟨code, hcode.trans ?_⟩
  rw [unitsIn, Nat.pow_eq, Nat.pow_eq, Nat.pow_eq, Nat.pow_add, Nat.mul_assoc]

end Format

namespace Number

theorem one_double : Format.double.one = Format.single.one * Format.single.unitsIn .double := by
  decide +kernel

theorem infinity_fits :
    Format.single.units Format.single.infinityCode * Format.single.unitsIn .double ≤
      Format.double.units Format.double.infinityCode := by decide +kernel

theorem exists_double_units {code : Nat} (h : code < Format.single.infinityCode) :
    ∃ wide, wide < Format.double.infinityCode ∧
      Format.double.units wide = Format.single.units code * Format.single.unitsIn .double := by
  obtain ⟨significand, shift, hsignificand, hunits⟩ : ∃ significand shift,
      significand < 2 * Format.double.binade ∧
        Format.single.units code = significand * Nat.pow 2 shift := by
    have hbinade : 2 * Format.single.binade ≤ 2 * Format.double.binade := by decide
    rcases Format.single.fields_cases code with hlt | ⟨exponent, fraction, hfraction, rfl⟩
    · refine ⟨code, 0, by omega, ?_⟩
      rw [Format.units_subnormal hlt, Nat.pow_eq, Nat.pow_zero, Nat.mul_one]
    · exact ⟨_, exponent, by omega, Format.units_normal hfraction exponent⟩
  obtain ⟨wide, hwide⟩ :=
    Format.exists_units_eq_mul_unitsIn (f := .single) hsignificand shift
  rw [← hunits] at hwide
  refine ⟨wide, ?_, hwide⟩
  rw [← Format.units_lt_units_iff, hwide]
  exact Nat.lt_of_lt_of_le
    (Nat.mul_lt_mul_of_pos_right (Format.units_lt_units h) (Format.unitsIn_pos _ _)) infinity_fits

/-- Widening keeps what a single denotes. -/
theorem datum_convert (x : Single) : (x.convert : Double).datum =
    match x.datum with
    | .finite negative units => .finite negative (units * Format.single.unitsIn .double)
    | other => other := by
  unfold convert
  cases hdatum : x.datum with
  | nan => decide +kernel
  | infinite negative => cases negative <;> decide +kernel
  | finite negative units =>
    have hfinite := isFinite_of_datum hdatum
    rw [datum_of_isFinite hfinite] at hdatum
    obtain ⟨rfl, rfl⟩ := Datum.finite.inj hdatum
    obtain ⟨wide, hwide, hunits⟩ := exists_double_units (isFinite_iff.1 hfinite)
    have hround : Format.double.ofRatio (Format.single.units x.code) Format.single.one = wide := by
      apply Format.ofRatio_of_units (Format.one_pos _) (Nat.le_of_lt hwide)
      rw [hunits, one_double, Nat.mul_assoc, Nat.mul_comm (Format.unitsIn _ _)]
    have hcodes : wide < Format.double.codes := Nat.lt_trans hwide (by decide +kernel)
    dsimp only
    rw [ofRatio, hround, ← hunits]
    exact datum_ofCode hcodes hwide _

theorem truncate?_convert (x : Single) : (x.convert : Double).truncate? = x.truncate? := by
  unfold truncate?
  rw [datum_convert]
  cases x.datum with
  | nan => rfl
  | infinite negative => rfl
  | finite negative units =>
    have hpart : units * Format.single.unitsIn .double / Format.double.one =
        units / Format.single.one := by
      rw [one_double, Nat.mul_div_mul_right _ _ (Format.unitsIn_pos _ _)]
    simp only [hpart]

/-- Widening a single and narrowing it again gives it back, its sign included, unless it is a
NaN. -/
theorem convert_convert {x : Single} (h : x.isNaN = false) :
    ((x.convert : Double).convert : Single) = x := by
  have hwide := datum_convert x
  generalize (x.convert : Double) = wide at hwide
  unfold convert
  rw [hwide]
  cases hdatum : x.datum with
  | nan => cases h.symm.trans (isNaN_of_datum hdatum)
  | infinite negative => exact (eq_infinity_of_datum hdatum).symm
  | finite negative units =>
    have hfinite := isFinite_of_datum hdatum
    rw [datum_of_isFinite hfinite] at hdatum
    obtain ⟨rfl, rfl⟩ := Datum.finite.inj hdatum
    have hround : Format.single.ofRatio
        (Format.single.units x.code * Format.single.unitsIn .double) Format.double.one = x.code := by
      apply Format.ofRatio_of_units (Format.one_pos _) (Nat.le_of_lt (isFinite_iff.1 hfinite))
      rw [one_double, Nat.mul_assoc, Nat.mul_comm (Format.unitsIn _ _)]
    dsimp only
    rw [ofRatio, hround, ofCode_code]

theorem isZero_convert (x : Single) : (x.convert : Double).isZero = x.isZero := by
  rw [Bool.eq_iff_iff, isZero_iff_datum (by decide), isZero_iff_datum (by decide), datum_convert]
  cases x.datum with
  | nan => rfl
  | infinite negative => rfl
  | finite negative units =>
    have hpos := Format.unitsIn_pos .single .double
    have hunits : units * Format.single.unitsIn .double = 0 ↔ units = 0 :=
      Nat.mul_eq_zero.trans (or_iff_left (Nat.ne_of_gt hpos))
    simp only [Datum.finite.injEq, hunits]

end Number
end Ieee
end BoundQuery
