import BoundQuery.Ieee.Format

/-!
# Shortest decimal digits

The decimals that read back as a given number fill an interval around it, half a
spacing to each side, its ends included when the pattern is even. Of the decimal
grids that have a point in that interval the coarsest is taken, and on it the
point nearest to the exact value. Everything is measured in units scaled by a
power of five, where every grid has whole points.
-/

namespace BoundQuery
namespace Ieee

/-- Which of two equally near grid points is chosen. -/
inductive Tie where
  | up
  | even
  deriving DecidableEq, Repr

/-- The decimals that round to one number. All three values are in quarters of the smallest
decimal place, so that the half spacings on both sides are whole. -/
structure Interval where
  lower : Nat
  value : Nat
  upper : Nat
  endsIncluded : Bool

namespace Interval

/-- The interval of a positive finite magnitude. Just below a power of two the spacing is half
as wide, the least such power apart. -/
def ofCode (f : Format) (code : Nat) : Interval :=
  let scale := Nat.pow 5 f.unitExponent
  let units := f.units code
  let above := f.spacing code
  let narrow := code % f.binade = 0 ∧ 1 < code / f.binade
  { lower := (4 * units - if narrow then above else 2 * above) * scale
    value := 4 * units * scale
    upper := (4 * units + 2 * above) * scale
    endsIncluded := code % 2 == 0 }

variable (i : Interval)

def contains (x : Nat) : Bool :=
  if i.endsIncluded then i.lower ≤ x && x ≤ i.upper else i.lower < x && x < i.upper

/-- The point to take on the grid of multiples of `10 ^ place`, of the two around the value. -/
def point? (tie : Tie) (place : Nat) : Option Nat :=
  let step := 4 * Nat.pow 10 place
  let below := i.value / step
  let rest := i.value % step
  match i.contains (below * step), i.contains ((below + 1) * step) with
  | false, false => none
  | true, false => some below
  | false, true => some (below + 1)
  | true, true =>
    if 2 * rest < step then some below
    else if step < 2 * rest then some (below + 1)
    else match tie with
      | .up => some (below + 1)
      | .even => some (below + below % 2)

/-- The point on the coarsest grid, from `10 ^ place` down, that has one, and its place. The
finest grid holds the value itself. -/
def coarsest (tie : Tie) : Nat → Nat × Nat
  | 0 => (i.value / 4, 0)
  | place + 1 =>
    match i.point? tie (place + 1) with
    | some point => (point, place + 1)
    | none => coarsest tie place

end Interval

/-- The digits of a magnitude, without a zero at either end, and the place of its point: the value
is `0.ddd` times ten to the power `point`. Zero has no digits. -/
structure Digits where
  digits : List Char
  point : Int
  deriving DecidableEq, Repr

namespace Digits

/-- Removes the zeros at the end of a fraction. -/
def stripZeros (ds : List Char) : List Char := (ds.reverse.dropWhile (· == '0')).reverse

/-- The fewest digits that read back as this finite magnitude, and of those the nearest. -/
def shortest (f : Format) (tie : Tie) (code : Nat) : Digits :=
  if code = 0 then ⟨[], 0⟩
  else
    let interval := Interval.ofCode f code
    let lead := (Nat.toDigits 10 (interval.value / 4)).length - 1
    let (point, place) := interval.coarsest tie lead
    let ds := Nat.toDigits 10 point
    ⟨stripZeros ds, (ds.length + place : Nat) - (f.unitExponent : Int)⟩

example : shortest .double .up 0x3fb999999999999a = ⟨['1'], 0⟩ := by decide +kernel

example : shortest .double .up 0x44b52d02c7e14af6 = ⟨['1'], 24⟩ := by decide +kernel

example : shortest .double .up 1 = ⟨['5'], -323⟩ := by decide +kernel

example : (shortest .double .up 0x3e60000000000000).digits = "29802322387695313".toList := by
  decide +kernel

example : (shortest .double .even 0x3e60000000000000).digits = "29802322387695312".toList := by
  decide +kernel

end Digits

end Ieee
end BoundQuery
