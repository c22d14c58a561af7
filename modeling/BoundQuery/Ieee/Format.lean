/-!
# Binary floating-point numbers

A number is a bit pattern: one sign bit, the exponent field and the fraction
field of its format. Every finite magnitude of a format is a whole number of its
smallest positive magnitude, the unit, so a finite number is a sign and a count
of units and no arithmetic here leaves the natural numbers.
-/

namespace BoundQuery
namespace Ieee

/-- The widths of the two fields below the sign. -/
structure Format where
  fractionBits : Nat
  exponentBits : Nat
  deriving DecidableEq, Repr

namespace Format

def single : Format := ⟨23, 8⟩

def double : Format := ⟨52, 11⟩

variable (f : Format)

def width : Nat := f.fractionBits + f.exponentBits + 1

def binade : Nat := Nat.pow 2 f.fractionBits

def codes : Nat := Nat.pow 2 (f.fractionBits + f.exponentBits)

/-- The unit is two to the power of minus this. -/
def unitExponent : Nat := Nat.pow 2 (f.exponentBits - 1) + f.fractionBits - 2

def one : Nat := Nat.pow 2 f.unitExponent

/-- The pattern of infinity without its sign: the exponent field is all ones. -/
def infinityCode : Nat := (Nat.pow 2 f.exponentBits - 1) * f.binade

/-- The distance in units from a finite magnitude to the next larger one. -/
def spacing (code : Nat) : Nat := Nat.pow 2 (code / f.binade - 1)

/-- The magnitude of a pattern without its sign, in units. A zero exponent field has no leading
one and otherwise counts like the field one. -/
def units (code : Nat) : Nat :=
  let fraction := code % f.binade
  let lead := if code / f.binade = 0 then 0 else f.binade
  (lead + fraction) * f.spacing code

example : single.unitExponent = 149 ∧ double.unitExponent = 1074 := by decide

example : single.width = 32 ∧ double.width = 64 := by decide

end Format

/-- A number of a format, which is its bit pattern. -/
structure Number (f : Format) where
  bits : BitVec f.width
  deriving DecidableEq, Repr

abbrev Single := Number .single

abbrev Double := Number .double

/-- What a bit pattern denotes. Every NaN denotes the same datum. -/
inductive Datum where
  | nan
  | infinite (negative : Bool)
  | finite (negative : Bool) (units : Nat)
  deriving DecidableEq, Repr

namespace Number

variable {f : Format}

def negative (x : Number f) : Bool := x.bits.msb

def code (x : Number f) : Nat := x.bits.toNat % f.codes

def ofCode (negative : Bool) (code : Nat) : Number f :=
  ⟨BitVec.ofNat f.width ((if negative then f.codes else 0) + code)⟩

def datum (x : Number f) : Datum :=
  if x.code < f.infinityCode then .finite x.negative (f.units x.code)
  else if x.code = f.infinityCode then .infinite x.negative
  else .nan

def infinity (negative : Bool) : Number f := ofCode negative f.infinityCode

/-- The quiet NaN whose other fraction bits are clear. -/
def nan : Number f := ofCode false (f.infinityCode + f.binade / 2)

def isFinite (x : Number f) : Bool := decide (x.code < f.infinityCode)

def isNaN (x : Number f) : Bool := decide (f.infinityCode < x.code)

/-- Both zeros are zero, and nothing else is. -/
def isZero (x : Number f) : Bool := x.code == 0

/-- Numeric equality: a NaN equals nothing and the two zeros are equal. -/
def equal (x y : Number f) : Bool :=
  !x.isNaN && !y.isNaN && (x.bits == y.bits || x.isZero && y.isZero)

end Number

end Ieee
end BoundQuery
