import BoundQuery.Ieee.Format

/-!
# Rounding to a format

An exact quotient of natural numbers becomes the nearest magnitude of a format,
a tie going to the even pattern and anything beyond the largest finite magnitude
to infinity. Integers and the numbers of another format are rounded through
that one function, so each conversion rounds once. Truncation goes the other
way, from a number to the integer part of its exact value.
-/

namespace BoundQuery
namespace Ieee

/-- The nearest natural number to `num / den`, a tie going to the even one. -/
def roundHalfEven (num den : Nat) : Nat :=
  let below := num / den
  let rest := num % den
  if 2 * rest < den then below
  else if den < 2 * rest then below + 1
  else below + below % 2

theorem roundHalfEven_mul (n den : Nat) (h : 0 < den) : roundHalfEven (n * den) den = n := by
  simp [roundHalfEven, h]

namespace Format

/-- The pattern, without a sign, that is nearest to `num / den`. A quotient of at least two to the
power `fractionBits + 1` units is first measured in a coarser spacing, whose exponent is added
to the pattern above the rounded significand; a carry out of the significand lands in the
exponent field by itself. -/
def ofRatio (f : Format) (num den : Nat) : Nat :=
  let units := num * f.one
  let shift := (units / den).log2 - f.fractionBits
  min f.infinityCode (shift * f.binade + roundHalfEven units (den * Nat.pow 2 shift))

end Format

namespace Number

variable {f : Format}

def ofRatio (negative : Bool) (num den : Nat) : Number f :=
  ofCode negative (f.ofRatio num den)

def ofInt (n : Int) : Number f := ofRatio (decide (n < 0)) n.natAbs 1

/-- The nearest number of another format; widening changes no value. -/
def convert {g : Format} (x : Number f) : Number g :=
  match x.datum with
  | .nan => nan
  | .infinite negative => infinity negative
  | .finite negative units => ofRatio negative units f.one

/-- The integer part of a finite number, toward zero. -/
def truncate? (x : Number f) : Option Int :=
  match x.datum with
  | .finite negative units =>
    let whole : Int := (units / f.one : Nat)
    some (if negative then -whole else whole)
  | _ => none

end Number

example : Number.convert (f := .single) (g := .double) ⟨0x3fc00000#32⟩ = ⟨0x3ff8000000000000#64⟩ := by
  decide +kernel

example : Number.convert (f := .double) (g := .single) ⟨0x7fefffffffffffff#64⟩ = ⟨0x7f800000#32⟩ := by
  decide +kernel

example : (Number.ofInt (2 ^ 53 + 1) : Double) = Number.ofInt (2 ^ 53) := by decide +kernel

example : Number.truncate? (f := .double) ⟨0xc3e0000000000000#64⟩ = some (-2 ^ 63) := by decide +kernel

end Ieee
end BoundQuery
