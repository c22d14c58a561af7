import BoundQuery.Ieee.Rounding
import BoundQuery.Ieee.Shortest
import BoundQuery.Text.Numeral

/-!
# Numbers as decimal text

Writing takes the shortest digits and lays them out as a `Layout` says. Reading
accepts an optional sign and then a name of infinity or of NaN, in any ASCII
case, or digits with an optional point and an optional exponent; the decimal is
rounded to the format once. An exponent that decides the answer by its size
alone is never expanded.
-/

namespace BoundQuery
namespace Ieee

/-- How digits are set out: which exponents are written without one, the exponent being that of
the first digit, what follows a whole number and what stands before an exponent that is not
negative. -/
structure Layout where
  tie : Tie
  isPlain : Int → Bool
  wholeEnding : String
  plusSign : String

namespace Layout

/-- Never an exponent, and nothing after a whole number. A tie goes up. -/
def positional : Layout := ⟨.up, fun _ => true, "", ""⟩

/-- The layout of JSON numbers in a format: plain while the exponent lies between the bounds, with
`.0` after a whole number. A tie goes to the even digit. -/
def json (f : Format) : Layout :=
  let least := if f = .single then -6 else -5
  let greatest := if f = .single then 12 else 15
  ⟨.even, fun exponent => least ≤ exponent && exponent ≤ greatest, ".0", "+"⟩

/-- The layout of diagnostic displays. A tie goes up. -/
def display : Layout := ⟨.up, fun exponent => -4 ≤ exponent && exponent ≤ 15, ".0", ""⟩

def plain (wholeEnding : String) (d : Digits) : String :=
  if d.digits.isEmpty then "0" ++ wholeEnding
  else if d.point ≤ 0 then
    "0." ++ String.ofList (List.replicate d.point.natAbs '0' ++ d.digits)
  else
    let whole := d.point.toNat
    if d.digits.length ≤ whole then
      String.ofList (d.digits ++ List.replicate (whole - d.digits.length) '0') ++ wholeEnding
    else
      String.ofList (d.digits.take whole) ++ "." ++ String.ofList (d.digits.drop whole)

/-- One digit before the point and a signed exponent after `e`. -/
def scientific (plusSign : String) (d : Digits) : String :=
  let exponent := d.point - 1
  let fraction := if d.digits.length ≤ 1 then [] else '.' :: d.digits.drop 1
  String.ofList (d.digits.take 1 ++ fraction) ++ "e" ++ (if exponent < 0 then "" else plusSign) ++
    String.ofList (Text.showInt exponent)

def write (layout : Layout) (d : Digits) : String :=
  if d.digits.isEmpty || layout.isPlain (d.point - 1) then plain layout.wholeEnding d
  else scientific layout.plusSign d

end Layout

namespace Number

variable {f : Format}

/-- The text of a finite number in a layout. -/
def writeFinite (layout : Layout) (x : Number f) : String :=
  (if x.negative then "-" else "") ++ layout.write (Digits.shortest f layout.tie x.code)

/-- The text in a layout, with names for what is not finite. A NaN is written without a sign. -/
def write (layout : Layout) (x : Number f) : String :=
  match x.datum with
  | .nan => "NaN"
  | .infinite negative => if negative then "-inf" else "inf"
  | .finite _ _ => x.writeFinite layout

def toText (x : Number f) : String := x.write .positional

end Number

section Positional

variable {f : Format} {c : Char}

theorem Digits.isDigit_of_mem_shortest {tie : Tie} {code : Nat}
    (h : c ∈ (Digits.shortest f tie code).digits) : c.isDigit = true := by
  unfold Digits.shortest at h
  split at h
  · cases h
  · have hkept := (List.dropWhile_sublist _).mem (List.mem_reverse.1 h)
    exact Text.isDigit_of_mem_toDigits (List.mem_reverse.1 hkept)

theorem Layout.isDigit_or_eq_of_mem_plain {d : Digits} (hd : ∀ c ∈ d.digits, c.isDigit = true)
    (h : c ∈ (Layout.plain "" d).toList) : c.isDigit = true ∨ c = '.' := by
  have hzero : '0'.isDigit = true := rfl
  unfold Layout.plain at h
  split at h
  · simp_all
  · split at h
    · simp only [String.toList_append, String.toList_ofList, List.mem_append,
        List.mem_replicate] at h
      rcases h with h | ⟨_, rfl⟩ | h
      · have hlead : c = '0' ∨ c = '.' := by simpa using h
        refine hlead.imp_left ?_
        rintro rfl
        exact hzero
      · exact Or.inl hzero
      · exact Or.inl (hd c h)
    · dsimp only at h
      split at h
      · simp only [String.toList_append, String.toList_ofList, List.mem_append,
          List.mem_replicate] at h
        rcases h with (h | ⟨_, rfl⟩) | h
        · exact Or.inl (hd c h)
        · exact Or.inl hzero
        · simp at h
      · simp only [String.toList_append, String.toList_ofList, List.mem_append] at h
        rcases h with (h | h) | h
        · exact Or.inl (hd c (List.mem_of_mem_take h))
        · exact Or.inr (by simpa using h)
        · exact Or.inl (hd c (List.mem_of_mem_drop h))

theorem Layout.toList_plain_ne_nil (d : Digits) : (Layout.plain "" d).toList ≠ [] := by
  unfold Layout.plain
  split
  · simp
  · next hne =>
    split
    · simp
    · dsimp only
      split <;> simp_all

namespace Number

theorem writeFinite_positional (x : Number f) : x.writeFinite .positional =
    (if x.negative then "-" else "") ++ Layout.plain "" (Digits.shortest f .up x.code) := by
  simp [writeFinite, Layout.write, Layout.positional]

/-- The characters of a number's text: digits, a sign, a point, and the letters of the names. -/
theorem isDigit_or_mem_of_mem_toText {x : Number f} (h : c ∈ x.toText.toList) :
    c.isDigit = true ∨ c ∈ "-.NaNinf".toList := by
  have hname : ∀ name ∈ ["NaN", "inf", "-inf", "-", "."], c ∈ name.toList →
      c ∈ "-.NaNinf".toList := by
    have hsubset : ∀ name ∈ ["NaN", "inf", "-inf", "-", "."],
        name.toList ⊆ "-.NaNinf".toList := by decide
    exact fun name hname hc => hsubset name hname hc
  unfold toText write at h
  split at h
  · exact Or.inr (hname _ (by simp) h)
  · split at h <;> exact Or.inr (hname _ (by simp) h)
  · rw [writeFinite_positional, String.toList_append, List.mem_append] at h
    rcases h with h | h
    · split at h
      · exact Or.inr (hname "-" (by simp) h)
      · simp at h
    · refine (Layout.isDigit_or_eq_of_mem_plain (fun _ => Digits.isDigit_of_mem_shortest) h).imp_right ?_
      rintro rfl
      exact hname "." (by simp) (by simp)

theorem toList_toText_ne_nil (x : Number f) : x.toText.toList ≠ [] := by
  unfold toText write
  split
  · simp
  · split <;> simp
  · rw [writeFinite_positional, String.toList_append]
    exact List.append_ne_nil_of_right_ne_nil _ (Layout.toList_plain_ne_nil _)

end Number

end Positional

/-- A decimal in text: its digits with the point removed, and the power of ten they count. -/
structure Decimal where
  digits : List Char
  exponent : Int
  deriving DecidableEq, Repr

namespace Decimal

/-- What the digits of an exponent count for. They are read while the value is below `2 ^ 16`: only
a decimal of about as many digits could tell a higher exponent from its first digits. -/
def exponentSize (digits : List Char) : Nat :=
  digits.foldl (fun n c => if n < 65536 then 10 * n + (c.toNat - '0'.toNat) else n) 0

/-- The exponent part, which may be absent. -/
def readExponent? : List Char → Option Int
  | [] => some 0
  | c :: cs =>
    if c = 'e' ∨ c = 'E' then
      (Text.readInt? cs).map fun n => n.sign * exponentSize (cs.filter Char.isDigit)
    else none

/-- Digits with an optional point, at least one digit in all, and an optional exponent. -/
def read? (cs : List Char) : Option Decimal := do
  let whole := cs.takeWhile Char.isDigit
  let rest := cs.dropWhile Char.isDigit
  let (fraction, tail) := match rest with
    | '.' :: rest => (rest.takeWhile Char.isDigit, rest.dropWhile Char.isDigit)
    | rest => ([], rest)
  if whole.isEmpty && fraction.isEmpty then none
  else
    let exponent ← readExponent? tail
    some ⟨whole ++ fraction, exponent - fraction.length⟩

/-- The nearest magnitude of a format. A nonzero decimal of `n` digits, without leading zeros, and
exponent `e` lies between `10 ^ (e + n - 1)` and `10 ^ (e + n)`; ten being more than two, a bound
on powers of two settles those far outside the format. -/
def code (f : Format) (d : Decimal) : Nat :=
  let significant := d.digits.dropWhile (· == '0')
  let point := d.exponent + significant.length
  if significant.isEmpty then 0
  else if (Nat.pow 2 f.exponentBits : Nat) < point then f.infinityCode
  else if point + (f.unitExponent + 1 : Nat) < 0 then 0
  else
    let n := Nat.ofDigitChars 10 significant 0
    if d.exponent < 0 then f.ofRatio n (Nat.pow 10 d.exponent.natAbs)
    else f.ofRatio (n * Nat.pow 10 d.exponent.toNat) 1

end Decimal

namespace Number

def readUnsigned? (f : Format) (negative : Bool) (cs : List Char) : Option (Number f) :=
  let folded := String.ofList (cs.map Char.toLower)
  if folded = "inf" ∨ folded = "infinity" then some (infinity negative)
  else if folded = "nan" then some (ofCode negative (nan : Number f).code)
  else (Decimal.read? cs).map fun d => ofCode negative (d.code f)

/-- Reads a number of the format from the whole text. -/
def read? (f : Format) : List Char → Option (Number f)
  | '+' :: cs => readUnsigned? f false cs
  | '-' :: cs => readUnsigned? f true cs
  | cs => readUnsigned? f false cs

end Number

example : (⟨0x3ff8000000000000#64⟩ : Double).toText = "1.5" := by decide +kernel

example : (⟨0x8000000000000000#64⟩ : Double).writeFinite (.json .double) = "-0.0" := by
  decide +kernel

example : (⟨0x7e37e43c8800759c#64⟩ : Double).writeFinite (.json .double) = "1e+300" := by
  decide +kernel

example : (⟨0x3eb0c6f7a0b5ed8d#64⟩ : Double).writeFinite (.json .double) = "1e-6" := by
  decide +kernel

example : Number.read? .double "1e400".toList = some (.infinity false) := by decide +kernel

example : Decimal.readExponent? "e-0655359".toList = some (-655359) ∧
    Decimal.readExponent? "E6553609".toList = some 65536 := by
  decide +kernel

example : Number.read? .double "-.5E1".toList = some ⟨0xc014000000000000#64⟩ := by decide +kernel

example : Number.read? .single "16777217".toList = some ⟨0x4b800000#32⟩ := by decide +kernel

end Ieee
end BoundQuery
