import BoundQuery.Ieee.Format

/-!
# Numbers in order

Read as natural numbers, the patterns below the sign come in the order of the
magnitudes they stand for, infinity behind all finite ones. So numbers compare
by their patterns, and a NaN compares with nothing.
-/

namespace BoundQuery
namespace Ieee

namespace Format

variable (f : Format)

theorem binade_eq : f.binade = Nat.pow 2 f.fractionBits := rfl

theorem binade_pos : 0 < f.binade := Nat.two_pow_pos _

theorem one_pos : 0 < f.one := Nat.two_pow_pos _

theorem codes_eq : f.codes = Nat.pow 2 (f.fractionBits + f.exponentBits) := rfl

theorem codes_pos : 0 < f.codes := Nat.two_pow_pos _

theorem width_pred : f.width - 1 = f.fractionBits + f.exponentBits := rfl

theorem fields_cases (code : Nat) : code < f.binade ∨
    ∃ exponent fraction, fraction < f.binade ∧ code = (exponent + 1) * f.binade + fraction := by
  rcases Nat.lt_or_ge code f.binade with hlt | hge
  · exact Or.inl hlt
  · have hdiv : 0 < code / f.binade := Nat.div_pos hge f.binade_pos
    have hexponent : code / f.binade - 1 + 1 = code / f.binade := by omega
    refine Or.inr ⟨code / f.binade - 1, code % f.binade, Nat.mod_lt _ f.binade_pos, ?_⟩
    rw [hexponent, Nat.div_add_mod']

variable {f} {exponent fraction : Nat}

theorem fields_div (h : fraction < f.binade) (exponent : Nat) :
    (exponent * f.binade + fraction) / f.binade = exponent := by
  rw [Nat.mul_comm, Nat.mul_add_div f.binade_pos, Nat.div_eq_of_lt h, Nat.add_zero]

theorem fields_mod (h : fraction < f.binade) (exponent : Nat) :
    (exponent * f.binade + fraction) % f.binade = fraction := by
  rw [Nat.mul_comm, Nat.mul_add_mod, Nat.mod_eq_of_lt h]

theorem spacing_subnormal {code : Nat} (h : code < f.binade) : f.spacing code = 1 := by
  rw [spacing, Nat.div_eq_of_lt h]

theorem spacing_normal (h : fraction < f.binade) (exponent : Nat) :
    f.spacing ((exponent + 1) * f.binade + fraction) = Nat.pow 2 exponent := by
  rw [spacing, fields_div h]
  rfl

theorem units_subnormal {code : Nat} (h : code < f.binade) : f.units code = code := by
  simp [units, spacing_subnormal h, Nat.div_eq_of_lt h, Nat.mod_eq_of_lt h]

theorem units_normal (h : fraction < f.binade) (exponent : Nat) :
    f.units ((exponent + 1) * f.binade + fraction) = (f.binade + fraction) * Nat.pow 2 exponent := by
  simp [units, spacing_normal h, fields_div h, fields_mod h]

variable (f) in
theorem units_power (exponent : Nat) :
    f.units ((exponent + 1) * f.binade) = f.binade * Nat.pow 2 exponent :=
  units_normal f.binade_pos exponent

variable (f) in
theorem units_succ (code : Nat) : f.units (code + 1) = f.units code + f.spacing code := by
  rcases f.fields_cases code with hcode | ⟨exponent, fraction, hfraction, rfl⟩
  · rw [units_subnormal hcode, spacing_subnormal hcode]
    rcases Nat.lt_or_eq_of_le (Nat.succ_le_of_lt hcode) with hlt | heq
    · exact units_subnormal hlt
    · have hfields : code + 1 = (0 + 1) * f.binade := by omega
      rw [hfields, units_power, Nat.pow_eq, Nat.pow_zero]
      omega
  · rw [units_normal hfraction, spacing_normal hfraction]
    rcases Nat.lt_or_eq_of_le (Nat.succ_le_of_lt hfraction) with hlt | heq
    · rw [Nat.add_assoc, units_normal hlt, Nat.add_succ, Nat.succ_mul]
    · have hfields : (exponent + 1) * f.binade + fraction + 1 = (exponent + 1 + 1) * f.binade := by
        rw [Nat.succ_mul (exponent + 1)]
        omega
      have hbinade : f.binade + fraction + 1 = f.binade * 2 := by omega
      rw [hfields, units_power, ← Nat.succ_mul, Nat.succ_eq_add_one, hbinade, Nat.pow_eq, Nat.pow_eq,
        Nat.pow_succ, Nat.mul_comm (2 ^ exponent), Nat.mul_assoc]

theorem spacing_pos (code : Nat) : 0 < f.spacing code := Nat.two_pow_pos _

theorem units_lt_units {code other : Nat} (h : code < other) : f.units code < f.units other := by
  induction h with
  | refl =>
    have hpos := f.spacing_pos code
    rw [units_succ]
    omega
  | step _ ih =>
    rw [units_succ]
    omega

/-- Larger patterns stand for larger magnitudes. -/
theorem units_lt_units_iff {code other : Nat} : f.units code < f.units other ↔ code < other := by
  constructor
  · intro h
    rcases Nat.lt_trichotomy code other with hlt | rfl | hgt
    · exact hlt
    · exact absurd h (Nat.lt_irrefl _)
    · exact absurd h (Nat.lt_asymm (units_lt_units hgt))
  · exact units_lt_units

theorem units_le_units_iff {code other : Nat} : f.units code ≤ f.units other ↔ code ≤ other := by
  rw [← Nat.not_lt, units_lt_units_iff, Nat.not_lt]

end Format

namespace Number

variable {f : Format}

/-- The place of a number among all but the NaNs. Both zeros have the same. -/
def rank (x : Number f) : Int := if x.negative then -(x.code : Int) else x.code

def lt (x y : Number f) : Bool := !x.isNaN && !y.isNaN && decide (x.rank < y.rank)

def le (x y : Number f) : Bool := !x.isNaN && !y.isNaN && decide (x.rank ≤ y.rank)

theorem lt_iff {x y : Number f} (hx : x.isNaN = false) (hy : y.isNaN = false) :
    x.lt y = true ↔ x.rank < y.rank := by
  simp [lt, hx, hy]

theorem le_iff {x y : Number f} (hx : x.isNaN = false) (hy : y.isNaN = false) :
    x.le y = true ↔ x.rank ≤ y.rank := by
  simp [le, hx, hy]

theorem code_lt_codes (x : Number f) : x.code < f.codes := Nat.mod_lt _ f.codes_pos

theorem two_pow_width (f : Format) : Nat.pow 2 f.width = 2 * f.codes := by
  rw [Format.codes_eq, Nat.pow_eq, Nat.pow_eq, Format.width, Nat.pow_succ, Nat.mul_comm]

theorem toNat_ofCode {code : Nat} (h : code < f.codes) (negative : Bool) :
    (ofCode negative code : Number f).bits.toNat = (if negative then f.codes else 0) + code := by
  rw [ofCode, BitVec.toNat_ofNat, ← Nat.pow_eq, two_pow_width]
  apply Nat.mod_eq_of_lt
  split <;> omega

@[simp] theorem code_ofCode {code : Nat} (h : code < f.codes) (negative : Bool) :
    (ofCode negative code : Number f).code = code := by
  rw [Number.code, toNat_ofCode h]
  split
  · rw [Nat.add_mod_left, Nat.mod_eq_of_lt h]
  · rw [Nat.zero_add, Nat.mod_eq_of_lt h]

@[simp] theorem negative_ofCode {code : Nat} (h : code < f.codes) (negative : Bool) :
    (ofCode negative code : Number f).negative = negative := by
  rw [Number.negative, BitVec.msb_eq_decide, toNat_ofCode h, Format.width_pred, ← Nat.pow_eq,
    ← Format.codes_eq]
  cases negative
  · simpa using h
  · simp

theorem ofCode_code (x : Number f) : ofCode x.negative x.code = x := by
  have hnegative : x.negative = decide (f.codes ≤ x.bits.toNat) := by
    rw [negative, BitVec.msb_eq_decide, Format.width_pred]
    rfl
  have hlt : x.bits.toNat < 2 * f.codes := two_pow_width f ▸ x.bits.isLt
  have hbits : (ofCode x.negative x.code : Number f).bits.toNat = x.bits.toNat := by
    rw [toNat_ofCode x.code_lt_codes, hnegative, code]
    by_cases hsign : f.codes ≤ x.bits.toNat
    · rw [if_pos (decide_eq_true hsign), Nat.mod_eq_sub_mod hsign, Nat.mod_eq_of_lt (by omega),
        Nat.add_sub_cancel' hsign]
    · rw [decide_eq_false hsign, Nat.mod_eq_of_lt (Nat.not_le.1 hsign)]
      exact Nat.zero_add _
  exact congrArg Number.mk (BitVec.eq_of_toNat_eq hbits)

theorem isFinite_iff {x : Number f} : x.isFinite = true ↔ x.code < f.infinityCode :=
  decide_eq_true_iff

theorem isNaN_of_isFinite {x : Number f} (h : x.isFinite = true) : x.isNaN = false := by
  have hlt := isFinite_iff.1 h
  exact decide_eq_false (Nat.lt_asymm hlt)

theorem datum_of_isFinite {x : Number f} (h : x.isFinite = true) :
    x.datum = .finite x.negative (f.units x.code) := if_pos (isFinite_iff.1 h)

theorem datum_ofCode {code : Nat} (hcodes : code < f.codes) (h : code < f.infinityCode)
    (negative : Bool) : (ofCode negative code : Number f).datum = .finite negative (f.units code) := by
  have hfinite : (ofCode negative code : Number f).isFinite = true := by
    rwa [isFinite_iff, code_ofCode hcodes]
  rw [datum_of_isFinite hfinite, negative_ofCode hcodes, code_ofCode hcodes]

theorem eq_infinity_of_datum {x : Number f} {negative : Bool} (h : x.datum = .infinite negative) :
    x = infinity negative := by
  unfold datum at h
  split at h
  · cases h
  · split at h
    · next hcode =>
      cases h
      rw [infinity, ← hcode, ofCode_code]
    · cases h

theorem isNaN_of_datum {x : Number f} (h : x.datum = .nan) : x.isNaN = true := by
  unfold datum at h
  split at h
  · cases h
  · split at h
    · cases h
    · exact decide_eq_true (by omega)

theorem isFinite_of_datum {x : Number f} {negative : Bool} {units : Nat}
    (h : x.datum = .finite negative units) : x.isFinite = true := by
  unfold datum at h
  split at h
  · next hlt => exact isFinite_iff.2 hlt
  · split at h <;> cases h

theorem isZero_iff_datum (hf : 0 < f.infinityCode) {x : Number f} :
    x.isZero = true ↔ ∃ negative, x.datum = .finite negative 0 := by
  have hzero : f.units 0 = 0 := Format.units_subnormal f.binade_pos
  rw [isZero, beq_iff_eq]
  constructor
  · intro hcode
    exact ⟨x.negative, by rw [datum, hcode, if_pos hf, hzero]⟩
  · rintro ⟨negative, hdatum⟩
    rw [datum_of_isFinite (isFinite_of_datum hdatum)] at hdatum
    have hunits : f.units x.code = f.units 0 := (Datum.finite.inj hdatum).2.trans hzero.symm
    exact Nat.eq_zero_of_le_zero (Format.units_le_units_iff.1 (Nat.le_of_eq hunits))

end Number

end Ieee
end BoundQuery
