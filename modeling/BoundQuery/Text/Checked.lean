import BoundQuery.Text.Numeral

/-!
# Decimal integers of a machine

The digits of an integer are taken in one after another, downward from zero
behind a minus sign and upward otherwise, so that the least integer is reached
without passing the greatest. A step that leaves the machine's integers ends the
reading: 64 bits with a sign, or 32 bits without one. Since no digit brings the
integer closer to zero, no text of an integer in range is refused for a step on
the way.
-/

namespace BoundQuery
namespace Text

/-- A machine integer, if it has one of 64 bits. -/
def checked? (n : Int) : Option Int64 :=
  if Int64.minValue.toInt ≤ n ∧ n ≤ Int64.maxValue.toInt then some (Int64.ofInt n) else none

theorem checked?_eq_some_iff {n : Int} {m : Int64} : checked? n = some m ↔ m.toInt = n := by
  rw [checked?, Option.ite_none_right_eq_some]
  constructor
  · rintro ⟨⟨hlow, hhigh⟩, hm⟩
    rw [← Option.some.inj hm, ← Int64.ofIntLE_eq_ofInt hlow hhigh, Int64.toInt_ofIntLE]
  · rintro rfl
    exact ⟨⟨m.minValue_le_toInt, m.toInt_le⟩, congrArg some (Int64.ofInt_toInt m)⟩

def signed (negative : Bool) (n : Nat) : Int := if negative then -(n : Int) else n

@[simp] theorem signed_false (n : Nat) : signed false n = n := rfl

@[simp] theorem signed_true (n : Nat) : signed true n = -(n : Int) := rfl

/-- Takes in one more digit. -/
def pushDigit? (negative : Bool) (before : Int64) (c : Char) : Option Int64 := do
  let scaled ← checked? (before.toInt * 10)
  if c.isDigit then
    let digit : Int := (c.toNat - '0'.toNat : Nat)
    checked? (if negative then scaled.toInt - digit else scaled.toInt + digit)
  else none

/-- One or more ASCII digits, taken in with this sign. -/
def readDigits? (negative : Bool) (cs : List Char) : Option Int64 :=
  if cs = [] then none else cs.foldlM (pushDigit? negative) 0

/-- An optional sign, then digits. -/
def readInt64? : List Char → Option Int64
  | '-' :: cs => readDigits? true cs
  | '+' :: cs => readDigits? false cs
  | cs => readDigits? false cs

variable {negative : Bool} {magnitude : Nat} {before after : Int64}

/-- With an integer, 64 bits hold all that are closer to zero on the same side. -/
theorem exists_toInt_eq_signed {smaller : Nat} (hle : smaller ≤ magnitude)
    (h : after.toInt = signed negative magnitude) : ∃ n : Int64, n.toInt = signed negative smaller := by
  have hlow := after.minValue_le_toInt
  have hhigh := after.toInt_le
  have hrange : Int64.minValue.toInt ≤ signed negative smaller ∧
      signed negative smaller ≤ Int64.maxValue.toInt := by
    rw [Int64.toInt_minValue, Int64.toInt_maxValue] at *
    cases negative <;> simp only [signed_true, signed_false] at * <;> omega
  exact ⟨_, checked?_eq_some_iff.1 (if_pos hrange)⟩

/-- A step is refused for the character or for its result, never for the result without the digit
alone. -/
theorem pushDigit?_eq_some_iff (h : before.toInt = signed negative magnitude) {c : Char} :
    pushDigit? negative before c = some after ↔ c.isDigit = true ∧
      after.toInt = signed negative (10 * magnitude + (c.toNat - '0'.toNat)) := by
  have hscaled : before.toInt * 10 = signed negative (10 * magnitude) := by
    rw [h]
    cases negative <;> simp only [signed_true, signed_false] <;> omega
  have hdigit : ∀ digit : Nat, (if negative then signed negative (10 * magnitude) - digit
      else signed negative (10 * magnitude) + digit) = signed negative (10 * magnitude + digit) := by
    intro digit
    cases negative <;> simp only [signed_true, signed_false, reduceIte, Bool.false_eq_true] <;> omega
  simp only [pushDigit?, hscaled, Option.bind_eq_bind, Option.bind_eq_some_iff,
    Option.ite_none_right_eq_some, checked?_eq_some_iff]
  constructor
  · rintro ⟨scaled, hvalue, hc, hafter⟩
    rw [hvalue, hdigit] at hafter
    exact ⟨hc, hafter⟩
  · rintro ⟨hc, hafter⟩
    obtain ⟨scaled, hvalue⟩ := exists_toInt_eq_signed (Nat.le_add_right _ _) hafter
    refine ⟨scaled, hvalue, hc, ?_⟩
    rw [hvalue, hdigit, hafter]

theorem le_ofDigitChars (cs : List Char) (n : Nat) : n ≤ Nat.ofDigitChars 10 cs n := by
  induction cs generalizing n with
  | nil => exact Nat.le_refl n
  | cons c cs ih =>
    rw [Nat.ofDigitChars_cons]
    have hrest := ih (10 * n + (c.toNat - '0'.toNat))
    omega

/-- A step that takes one more digit into a machine integer, and the magnitudes that these integers
hold: with each all that are smaller. -/
structure TakesDigits {α : Type} (push : α → Char → Option α) (holds : α → Nat → Prop) : Prop where
  push_iff : ∀ {before after : α} {magnitude : Nat} {c : Char}, holds before magnitude →
    (push before c = some after ↔
      c.isDigit = true ∧ holds after (10 * magnitude + (c.toNat - '0'.toNat)))
  smaller : ∀ {a : α} {smaller magnitude : Nat}, smaller ≤ magnitude → holds a magnitude →
    ∃ b, holds b smaller
  unique : ∀ {a b : α} {magnitude : Nat}, holds a magnitude → holds b magnitude → a = b

/-- Steps through all the digits give what the digits count for, if the machine has it. -/
theorem TakesDigits.foldlM_eq_some_iff {α : Type} {push : α → Char → Option α}
    {holds : α → Nat → Prop} (hpush : TakesDigits push holds) {before after : α} {magnitude : Nat}
    (h : holds before magnitude) {cs : List Char} :
    cs.foldlM push before = some after ↔
      (∀ c ∈ cs, c.isDigit = true) ∧ holds after (Nat.ofDigitChars 10 cs magnitude) := by
  induction cs generalizing before magnitude with
  | nil =>
    rw [List.foldlM_nil, Nat.ofDigitChars_nil]
    constructor
    · rintro ⟨rfl⟩
      exact ⟨fun _ hc => (List.not_mem_nil hc).elim, h⟩
    · rintro ⟨_, hafter⟩
      exact congrArg some (hpush.unique h hafter)
  | cons c cs ih =>
    rw [List.foldlM_cons, Option.bind_eq_bind, Option.bind_eq_some_iff, List.forall_mem_cons,
      Nat.ofDigitChars_cons]
    constructor
    · rintro ⟨next, hnext, hrest⟩
      obtain ⟨hc, hvalue⟩ := (hpush.push_iff h).1 hnext
      obtain ⟨hcs, hafter⟩ := (ih hvalue).1 hrest
      exact ⟨⟨hc, hcs⟩, hafter⟩
    · rintro ⟨⟨hc, hcs⟩, hafter⟩
      -- further digits only lead away from zero, so this step stays in range if the last one does
      obtain ⟨next, hvalue⟩ := hpush.smaller (le_ofDigitChars cs _) hafter
      exact ⟨next, (hpush.push_iff h).2 ⟨hc, hvalue⟩, (ih hvalue).2 ⟨hcs, hafter⟩⟩

theorem takesDigits_pushDigit? (negative : Bool) : TakesDigits (pushDigit? negative)
    fun n magnitude => n.toInt = signed negative magnitude where
  push_iff h := pushDigit?_eq_some_iff h
  smaller := exists_toInt_eq_signed
  unique ha hb := Int64.toInt_inj.1 (ha.trans hb.symm)

theorem readDigits?_eq_some_iff {cs : List Char} : readDigits? negative cs = some after ↔
    (readNat? cs).map (signed negative) = some after.toInt := by
  have hzero : (0 : Int64).toInt = signed negative 0 := by cases negative <;> rfl
  simp only [readDigits?, Option.ite_none_left_eq_some,
    (takesDigits_pushDigit? negative).foldlM_eq_some_iff hzero, Option.map_eq_some_iff,
    readNat?_eq_some_iff]
  constructor
  · rintro ⟨hne, hdigits, hafter⟩
    exact ⟨_, ⟨hne, hdigits, rfl⟩, hafter.symm⟩
  · rintro ⟨_, ⟨hne, hdigits, rfl⟩, hafter⟩
    exact ⟨hne, hdigits, hafter.symm⟩

theorem readInt64?_eq_some_iff {cs : List Char} {n : Int64} :
    readInt64? cs = some n ↔ readInt? cs = some n.toInt := by
  unfold readInt64?
  split
  · exact readDigits?_eq_some_iff
  · exact readDigits?_eq_some_iff
  · have hread : readInt? cs = (readNat? cs).map Int.ofNat := by
      simp only [readInt?, readUnsigned?]
    rw [hread]
    exact readDigits?_eq_some_iff

/-- The last digit decides on either side. -/
example : readInt64? "-9223372036854775808".toList = some Int64.minValue ∧
    readInt64? "9223372036854775808".toList = none := by decide +kernel

/-- A machine integer without a sign, if it has one of 32 bits. -/
def checkedUnsigned? (n : Nat) : Option UInt32 :=
  if n < UInt32.size then some (UInt32.ofNat n) else none

theorem checkedUnsigned?_eq_some_iff {n : Nat} {m : UInt32} :
    checkedUnsigned? n = some m ↔ m.toNat = n := by
  rw [checkedUnsigned?, Option.ite_none_right_eq_some]
  constructor
  · rintro ⟨hlt, hm⟩
    rw [← Option.some.inj hm, UInt32.toNat_ofNat_of_lt' hlt]
  · rintro rfl
    exact ⟨m.toNat_lt, congrArg some UInt32.ofNat_toNat⟩

def pushUnsigned? (before : UInt32) (c : Char) : Option UInt32 := do
  let scaled ← checkedUnsigned? (before.toNat * 10)
  if c.isDigit then checkedUnsigned? (scaled.toNat + (c.toNat - '0'.toNat)) else none

def readUnsignedDigits? (cs : List Char) : Option UInt32 :=
  if cs = [] then none else cs.foldlM pushUnsigned? 0

/-- An optional plus sign, then digits. -/
def readUInt32? : List Char → Option UInt32
  | '+' :: cs => readUnsignedDigits? cs
  | cs => readUnsignedDigits? cs

theorem takesDigits_pushUnsigned? :
    TakesDigits pushUnsigned? fun n magnitude => n.toNat = magnitude where
  push_iff := by
    rintro before after _ c rfl
    simp only [pushUnsigned?, Option.bind_eq_bind, Option.bind_eq_some_iff,
      Option.ite_none_right_eq_some, checkedUnsigned?_eq_some_iff]
    constructor
    · rintro ⟨scaled, hscaled, hc, hafter⟩
      exact ⟨hc, by omega⟩
    · rintro ⟨hc, hafter⟩
      have hlt : before.toNat * 10 < UInt32.size := by
        have hsize : UInt32.size = 2 ^ 32 := rfl
        have hrange := after.toNat_lt
        omega
      exact ⟨UInt32.ofNat (before.toNat * 10), UInt32.toNat_ofNat_of_lt' hlt, hc,
        by rw [UInt32.toNat_ofNat_of_lt' hlt]; omega⟩
  smaller := by
    rintro a smaller _ hle rfl
    exact ⟨UInt32.ofNat smaller, UInt32.toNat_ofNat_of_lt' (Nat.lt_of_le_of_lt hle a.toNat_lt)⟩
  unique ha hb := UInt32.toNat_inj.1 (ha.trans hb.symm)

theorem readUInt32?_eq_some_iff {cs : List Char} {n : UInt32} :
    readUInt32? cs = some n ↔ readUnsigned? cs = some n.toNat := by
  have hdigits : ∀ ds : List Char, readUnsignedDigits? ds = some n ↔ readNat? ds = some n.toNat := by
    intro ds
    have hzero : (0 : UInt32).toNat = 0 := rfl
    rw [readUnsignedDigits?, Option.ite_none_left_eq_some,
      takesDigits_pushUnsigned?.foldlM_eq_some_iff hzero, readNat?_eq_some_iff, eq_comm (a := n.toNat)]
  unfold readUInt32?
  split
  · exact hdigits _
  · have hread : readUnsigned? cs = readNat? cs := by
      simp only [readUnsigned?]
    rw [hread]
    exact hdigits cs

/-- Zeros in front do not count, and the last digit decides. -/
example : readUInt32? "+0000000004294967295".toList = some 4294967295 ∧
    readUInt32? "4294967296".toList = none ∧ readUInt32? "-0".toList = none := by decide +kernel

end Text
end BoundQuery
