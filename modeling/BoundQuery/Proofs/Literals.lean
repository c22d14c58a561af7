import BoundQuery.Proofs.IntegerForms
import BoundQuery.Proofs.TextIntegers

/-!
# Values told from their literals

The literal of an integer is its one canonical decimal text, and the literal of a
byte buffer has two hexadecimal digits in upper case for each byte, so both can
be read back. Since the other literals are words and quoted texts, no two values
of a kind have the same literal, those of floats aside.
-/

namespace BoundQuery
namespace Text

/-- Digits without a zero in front, zero itself being one digit. -/
structure PlainDigits (cs : List Char) : Prop extends Digits cs where
  leading : cs.head? = some '0' → cs = ['0']

/-- The canonical text of an integer: plain digits, after a minus sign below zero. -/
inductive SpellsPlainly : List Char → ℤ → Prop where
  | bare {digits : List Char} (h : PlainDigits digits) : SpellsPlainly digits (decimal digits)
  | minus {digits : List Char} (h : PlainDigits digits) (hzero : digits ≠ ['0']) :
    SpellsPlainly ('-' :: digits) (-(decimal digits : ℤ))

/-- The digits of base sixteen in upper case, each at the place of its value. -/
def hexAlphabet : List Char :=
  ['0', '1', '2', '3', '4', '5', '6', '7', '8', '9', 'A', 'B', 'C', 'D', 'E', 'F']

/-- The byte that two digits stand for, the first of them for sixteen times its value. -/
def readHexByte? (high low : Char) : Option UInt8 := do
  let h ← hexAlphabet.idxOf? high
  let l ← hexAlphabet.idxOf? low
  return UInt8.ofNat (16 * h + l)

/-- The bytes that digits stand for pair by pair. A digit without a partner stands for nothing. -/
def readHexBytes? : List Char → Option (List UInt8)
  | [] => some []
  | [_] => none
  | high :: low :: rest => do
    let b ← readHexByte? high low
    let bs ← readHexBytes? rest
    return b :: bs

/-- Two digits in upper case for each byte, from which the bytes can be read. -/
structure SpellsBytes (cs : List Char) (b : List UInt8) : Prop where
  length_eq : cs.length = 2 * b.length
  upper : ∀ c ∈ cs, c ∈ hexAlphabet
  read : readHexBytes? cs = some b

section Integers

theorem toDigits_of_isDigit {c : Char} (h : c.isDigit = true) :
    c.toNat - '0'.toNat < 10 ∧ Nat.toDigits 10 (c.toNat - '0'.toNat) = [c] := by
  have hcode : 48 ≤ c.toNat ∧ c.toNat ≤ 57 := Char.isDigit_iff_toNat.1 h
  have hzero : '0'.toNat = 48 := rfl
  have hlt : c.toNat - '0'.toNat < 10 := by omega
  refine ⟨hlt, ?_⟩
  rw [Nat.toDigits_of_lt_base hlt, List.cons_eq_cons, ← Char.toNat_inj,
    Nat.toNat_digitChar_of_lt_ten hlt]
  exact ⟨by omega, rfl⟩

/-- Digits taken in after a number other than zero stand behind its own. -/
theorem toDigits_ofDigitChars {cs : List Char} (h : ∀ c ∈ cs, c.isDigit = true) {n : ℕ}
    (hn : 0 < n) : Nat.toDigits 10 (Nat.ofDigitChars 10 cs n) = Nat.toDigits 10 n ++ cs := by
  induction cs generalizing n with
  | nil => rw [Nat.ofDigitChars_nil, List.append_nil]
  | cons c cs ih =>
    obtain ⟨hc, hcs⟩ := List.forall_mem_cons.1 h
    obtain ⟨hlt, hdigit⟩ := toDigits_of_isDigit hc
    have hpos : 0 < 10 * n + (c.toNat - '0'.toNat) := by omega
    have hstep := Nat.toDigits_append_toDigits (b := 10) (by decide) hn hlt
    rw [hdigit] at hstep
    rw [Nat.ofDigitChars_cons, ih hcs hpos, ← hstep, List.append_assoc, List.singleton_append]

theorem toDigits_decimal {cs : List Char} (h : PlainDigits cs) :
    Nat.toDigits 10 (decimal cs) = cs := by
  have hdigits : ∀ c ∈ cs, c.isDigit = true := fun c hc => isDigit_iff_between.2 (h.between c hc)
  obtain ⟨c, later, rfl⟩ := List.exists_cons_of_ne_nil h.ne_nil
  obtain ⟨hc, hlater⟩ := List.forall_mem_cons.1 hdigits
  obtain ⟨_, hfirst⟩ := toDigits_of_isDigit hc
  rw [← ofDigitChars_eq_decimal, Nat.ofDigitChars_cons, Nat.mul_zero, Nat.zero_add]
  rcases Nat.eq_zero_or_pos (c.toNat - '0'.toNat) with hzero | hpos
  · -- the first digit is zero, so there is no other
    have hchar : c = '0' := by
      rw [hzero] at hfirst
      exact (List.singleton_inj.1 hfirst).symm
    obtain ⟨_, rfl⟩ := List.cons_eq_cons.1 (h.leading (congrArg some hchar))
    rw [Nat.ofDigitChars_nil, hfirst]
  · rw [toDigits_ofDigitChars hlater hpos, hfirst, List.singleton_append]

theorem head?_toDigits_ne_zero {n : ℕ} (hn : n ≠ 0) : (Nat.toDigits 10 n).head? ≠ some '0' := by
  induction n using Nat.strongRecOn with
  | ind n ih =>
    rcases Nat.lt_or_ge n 10 with hlt | hge
    · rw [Nat.toDigits_of_lt_base hlt, List.head?_cons, ne_eq, Option.some.injEq,
        Nat.digitChar_eq_zero]
      exact hn
    · rw [Nat.toDigits_of_base_le (by decide) hge,
        List.head?_append_of_ne_nil _ Nat.toDigits_ne_nil]
      exact ih (n / 10) (by omega) (by omega)

theorem decimal_toDigits (n : ℕ) : decimal (Nat.toDigits 10 n) = n := by
  rw [← ofDigitChars_eq_decimal, Nat.ofDigitChars_ten_toDigits]

theorem toDigits_eq_zero_iff {n : ℕ} : Nat.toDigits 10 n = ['0'] ↔ n = 0 := by
  constructor
  · intro h
    rw [← decimal_toDigits n, h]
    rfl
  · rintro rfl
    rfl

theorem plainDigits_toDigits (n : ℕ) : PlainDigits (Nat.toDigits 10 n) where
  ne_nil := Nat.toDigits_ne_nil
  between _ hc := isDigit_iff_between.1 (isDigit_of_mem_toDigits hc)
  leading hhead := by
    by_contra hmore
    exact head?_toDigits_ne_zero (fun hzero => hmore (toDigits_eq_zero_iff.2 hzero)) hhead

/-- Each integer has one canonical text, which is the one it is shown as. -/
theorem spellsPlainly_iff {cs : List Char} {n : ℤ} : SpellsPlainly cs n ↔ cs = showInt n := by
  constructor
  · intro h
    cases h with
    | bare hplain =>
      rw [showInt, if_neg (Int.natCast_nonneg _).not_gt, Int.natAbs_natCast, toDigits_decimal hplain]
    | @minus digits hplain hzero =>
      have hvalue : decimal digits ≠ 0 := by
        rwa [ne_eq, ← toDigits_eq_zero_iff, toDigits_decimal hplain]
      rw [showInt, if_pos (by omega), Int.natAbs_neg, Int.natAbs_natCast, toDigits_decimal hplain]
  · rintro rfl
    have hplain := plainDigits_toDigits n.natAbs
    unfold showInt
    split
    · next hneg =>
      have hzero : Nat.toDigits 10 n.natAbs ≠ ['0'] := by
        rw [ne_eq, toDigits_eq_zero_iff]
        omega
      have hspells := SpellsPlainly.minus hplain hzero
      rwa [decimal_toDigits, Int.ofNat_natAbs_of_nonpos hneg.le, neg_neg] at hspells
    · next hnonneg =>
      have hspells := SpellsPlainly.bare hplain
      rwa [decimal_toDigits, Int.natAbs_of_nonneg (not_lt.1 hnonneg)] at hspells

end Integers

section Bytes

variable {cs : List Char} {b : List UInt8}

theorem mem_hexAlphabet {n : ℕ} (hn : n < 16) :
    SqlValue.hexDigit n ∈ hexAlphabet ∧ hexAlphabet.idxOf? (SqlValue.hexDigit n) = some n := by
  have hall : ∀ m ∈ List.range 16,
      SqlValue.hexDigit m ∈ hexAlphabet ∧ hexAlphabet.idxOf? (SqlValue.hexDigit m) = some m := by
    decide +kernel
  exact hall n (List.mem_range.2 hn)

theorem readHexByte?_of_idxOf? {high low : Char} {byte : UInt8}
    (hhigh : hexAlphabet.idxOf? high = some (byte.toNat / 16))
    (hlow : hexAlphabet.idxOf? low = some (byte.toNat % 16)) : readHexByte? high low = some byte := by
  have hvalue : 16 * (byte.toNat / 16) + byte.toNat % 16 = byte.toNat := Nat.div_add_mod _ _
  simp only [readHexByte?, hhigh, hlow, Option.bind_eq_bind, Option.bind_some, Option.pure_def,
    hvalue, UInt8.ofNat_toNat]

theorem spellsBytes_nil : SpellsBytes [] [] where
  length_eq := rfl
  upper _ hc := absurd hc List.not_mem_nil
  read := rfl

theorem SpellsBytes.cons (h : SpellsBytes cs b) (byte : UInt8) :
    SpellsBytes (SqlValue.hexByte byte ++ cs) (byte :: b) := by
  have hbyte := byte.toNat_lt
  obtain ⟨hhigh, hhighValue⟩ := mem_hexAlphabet (n := byte.toNat / 16) (by omega)
  obtain ⟨hlow, hlowValue⟩ := mem_hexAlphabet (n := byte.toNat % 16) (by omega)
  rw [SqlValue.hexByte, List.cons_append, List.cons_append, List.nil_append]
  constructor
  · rw [List.length_cons, List.length_cons, List.length_cons, h.length_eq]
    omega
  · exact List.forall_mem_cons.2 ⟨hhigh, List.forall_mem_cons.2 ⟨hlow, h.upper⟩⟩
  · rw [readHexBytes?, readHexByte?_of_idxOf? hhighValue hlowValue, h.read]
    rfl

theorem spellsBytes_flatMap_hexByte (b : List UInt8) :
    SpellsBytes (b.flatMap SqlValue.hexByte) b := by
  induction b with
  | nil => exact spellsBytes_nil
  | cons byte b ih => exact ih.cons byte

end Bytes

end Text

namespace SqlValue

variable {v w : SqlValue}

theorem literal_of_integer? {n : ℤ} (h : v.integer? = some n) :
    v.literal = String.ofList (Text.showInt n) := by
  cases v <;> cases h <;> rfl

theorem eq_of_literal_eq (hkind : v.kind = w.kind) (hfloat : v.kind ≠ .float32 ∧ v.kind ≠ .float64)
    (h : v.literal = w.literal) : v = w := by
  have hshown : ∀ {n m : ℤ}, String.ofList (Text.showInt n) = String.ofList (Text.showInt m) →
      n = m := fun h => Text.showInt_inj.1 (String.ofList_injective h)
  cases v with
  | null =>
    cases w with
    | null => rfl
    | _ => cases hkind
  | bool b =>
    cases w with
    | bool b' => cases b <;> cases b' <;> simp_all [literal]
    | _ => cases hkind
  | int8 n =>
    cases w with
    | int8 m => exact congrArg int8 (Int8.toInt_inj.1 (hshown h))
    | _ => cases hkind
  | int16 n =>
    cases w with
    | int16 m => exact congrArg int16 (Int16.toInt_inj.1 (hshown h))
    | _ => cases hkind
  | int32 n =>
    cases w with
    | int32 m => exact congrArg int32 (Int32.toInt_inj.1 (hshown h))
    | _ => cases hkind
  | int64 n =>
    cases w with
    | int64 m => exact congrArg int64 (Int64.toInt_inj.1 (hshown h))
    | _ => cases hkind
  | float32 x => exact absurd rfl hfloat.1
  | float64 x => exact absurd rfl hfloat.2
  | text s =>
    cases w with
    | text s' => exact congrArg text ((String.append_right_inj _).1 ((String.append_left_inj _).1 h))
    | _ => cases hkind
  | bytes b =>
    cases w with
    | bytes b' =>
      have hdigits := String.ofList_injective
        ((String.append_right_inj _).1 ((String.append_left_inj _).1 h))
      have hread := (Text.spellsBytes_flatMap_hexByte b).read
      rw [hdigits, (Text.spellsBytes_flatMap_hexByte b').read] at hread
      exact congrArg bytes (Option.some.inj hread).symm
    | _ => cases hkind

theorem readInt?_literal {n : ℤ} (h : v.integer? = some n) :
    (SqlValue.bytes (Text.encode v.literal)).readInt? = some n := by
  rw [literal_of_integer? h, Text.ofList_showInt, (holdsSpaced_text n).readInt?,
    fitting_eq_some_iff]
  exact ⟨SignedType.int64.inRange_bits_iff.1 (inRange_of_readInt? (readInt?_of_integer? h)), rfl⟩

/-- A literal determines its value among the values of a kind that is no float. The literal of an
integer is its canonical text and is read as it by every type that has it, and the literal of a byte
buffer spells its bytes. -/
theorem literal_determines_value :
    (∀ v w : SqlValue, v.kind = w.kind → v.kind ≠ .float32 ∧ v.kind ≠ .float64 →
      v.literal = w.literal → v = w) ∧
    (∀ (v : SqlValue) (n : ℤ), v.integer? = some n →
      (∀ cs, v.literal = String.ofList cs ↔ Text.SpellsPlainly cs n) ∧
      ∀ t : SignedType, t.least ≤ n ∧ n ≤ t.greatest →
        t.read? (.bytes (Text.encode v.literal)) = some n) ∧
    ∀ b : List UInt8, ∃ digits : List Char,
      (SqlValue.bytes b).literal = "X'" ++ String.ofList digits ++ "'" ∧
      Text.SpellsBytes digits b := by
  refine ⟨fun v w => eq_of_literal_eq, ?_, ?_⟩
  · intro v n h
    constructor
    · intro cs
      rw [literal_of_integer? h, String.ofList_inj, Text.spellsPlainly_iff, eq_comm]
    · intro t hrange
      exact SignedType.read?_eq_some_iff.2 ⟨readInt?_literal h, hrange⟩
  · intro b
    exact ⟨b.flatMap hexByte, rfl, Text.spellsBytes_flatMap_hexByte b⟩

/-- The least integer of 8 bits, also as the one behind the greatest, and a buffer with a byte below
sixteen. -/
theorem literal_determines_value_at_least_int8 :
    let least := SqlValue.int8 (-128)
    let wrapped := SqlValue.int8 (Int8.ofInt 128)
    (wrapped.kind = least.kind ∧ (wrapped.kind ≠ .float32 ∧ wrapped.kind ≠ .float64) ∧
      wrapped.literal = least.literal ∧ wrapped = least) ∧
    (least.integer? = some (-128) ∧ Text.SpellsPlainly ['-', '1', '2', '8'] (-128) ∧
      SignedType.int8.read? (.bytes (Text.encode least.literal)) = some (-128)) ∧
    ∃ digits, (SqlValue.bytes [0x0a, 0xff]).literal = "X'" ++ String.ofList digits ++ "'" ∧
      Text.SpellsBytes digits [0x0a, 0xff] := by
  intro least wrapped
  obtain ⟨hvalue, hinteger, hbytes⟩ := literal_determines_value
  have hfloat : wrapped.kind ≠ .float32 ∧ wrapped.kind ≠ .float64 := by decide
  have hliteral : wrapped.literal = least.literal := by decide +kernel
  have hleast : least.integer? = some (-128) := by decide
  obtain ⟨hplain, hread⟩ := hinteger least (-128) hleast
  exact ⟨⟨rfl, hfloat, hliteral, hvalue wrapped least rfl hfloat hliteral⟩,
    ⟨hleast, (hplain _).1 (by decide +kernel), hread .int8 (by decide)⟩, hbytes [0x0a, 0xff]⟩

end SqlValue
end BoundQuery
