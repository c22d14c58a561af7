import BoundQuery.SqlValue.Signed
import Mathlib.Data.List.Forall2
import Mathlib.Data.List.Induction
import Mathlib.Data.Nat.Digits.Defs

/-!
# Integers and truth values in byte buffers

A byte buffer is read as the text that it encodes, without the white space at
its ends. Signed types read that text if it spells an integer of their range, by
an optional sign and ASCII digits. Truth values are read from the two words in
any case and from the integers of 64 bits. All other buffers are refused.
-/

namespace BoundQuery
namespace Text

/-- One or more ASCII digits. -/
structure Digits (cs : List Char) : Prop where
  ne_nil : cs ≠ []
  between : ∀ c ∈ cs, '0' ≤ c ∧ c ≤ '9'

/-- What digits count for to the base ten, the first of them for most. -/
def decimal (cs : List Char) : ℕ := Nat.ofDigits 10 (cs.reverse.map fun c => c.toNat - '0'.toNat)

/-- The texts of an integer: digits, with any number of zeros in front, and before them at most one
sign. -/
inductive SpellsInt : List Char → ℤ → Prop where
  | bare {digits : List Char} (h : Digits digits) : SpellsInt digits (decimal digits)
  | plus {digits : List Char} (h : Digits digits) : SpellsInt ('+' :: digits) (decimal digits)
  | minus {digits : List Char} (h : Digits digits) : SpellsInt ('-' :: digits) (-(decimal digits : ℤ))

/-- A word with each letter in either ASCII case. The letters are given in lower case. -/
def SpellsWord (letters cs : List Char) : Prop :=
  List.Forall₂ (fun c letter => c = letter ∨ c = letter.toUpper) cs letters

/-- The texts of a truth value. An integer is true unless it is zero. -/
inductive SpellsTruth (cs : List Char) : Bool → Prop where
  | yes (h : SpellsWord "true".toList cs) : SpellsTruth cs true
  | no (h : SpellsWord "false".toList cs) : SpellsTruth cs false
  | int {n : ℤ} (h : SpellsInt cs n)
    (hrange : SignedType.int64.least ≤ n ∧ n ≤ SignedType.int64.greatest) :
    SpellsTruth cs (decide (n ≠ 0))

/-- The bytes encode a text that is this one with white space around it. -/
def Encloses (b : List UInt8) (core : List Char) : Prop :=
  ∃ s : String, b = encode s ∧ Trimmed s.toList core

section Integers

theorem ofDigitChars_eq_decimal (cs : List Char) : Nat.ofDigitChars 10 cs 0 = decimal cs := by
  induction cs using List.reverseRecOn with
  | nil => rfl
  | append_singleton cs c ih =>
    rw [Nat.ofDigitChars_append, Nat.ofDigitChars_cons, Nat.ofDigitChars_nil, ih, decimal, decimal,
      List.reverse_append, List.reverse_singleton, List.singleton_append, List.map_cons,
      Nat.ofDigits_cons, Nat.add_comm]

theorem isDigit_iff_between {c : Char} : c.isDigit = true ↔ '0' ≤ c ∧ c ≤ '9' := by
  simp [Char.isDigit, Char.le_def]

theorem readNat?_eq_some_iff_digits {cs : List Char} {n : ℕ} :
    readNat? cs = some n ↔ Digits cs ∧ decimal cs = n := by
  rw [readNat?_eq_some_iff, ofDigitChars_eq_decimal]
  simp only [isDigit_iff_between]
  constructor
  · rintro ⟨hne, hbetween, hn⟩
    exact ⟨⟨hne, hbetween⟩, hn⟩
  · rintro ⟨⟨hne, hbetween⟩, hn⟩
    exact ⟨hne, hbetween, hn⟩

/-- The reader of integers accepts their texts and nothing else. -/
theorem readInt?_eq_some_iff {cs : List Char} {n : ℤ} : readInt? cs = some n ↔ SpellsInt cs n := by
  constructor
  · intro h
    unfold readInt? at h
    split at h
    · obtain ⟨m, hm, rfl⟩ := Option.map_eq_some_iff.1 h
      obtain ⟨hdigits, rfl⟩ := readNat?_eq_some_iff_digits.1 hm
      exact .minus hdigits
    · obtain ⟨m, hm, rfl⟩ := Option.map_eq_some_iff.1 h
      unfold readUnsigned? at hm
      split at hm
      · obtain ⟨hdigits, rfl⟩ := readNat?_eq_some_iff_digits.1 hm
        exact .plus hdigits
      · obtain ⟨hdigits, rfl⟩ := readNat?_eq_some_iff_digits.1 hm
        exact .bare hdigits
  · rintro (hdigits | hdigits | hdigits)
    · have hread := readNat?_eq_some_iff_digits.2 ⟨hdigits, rfl⟩
      obtain ⟨c, later, rfl⟩ := List.exists_cons_of_ne_nil hdigits.ne_nil
      have hc : c.isDigit = true := isDigit_iff_between.2 (hdigits.between c List.mem_cons_self)
      rw [readInt?_of_isDigit hc, hread]
      rfl
    · exact congrArg (Option.map Int.ofNat) (readNat?_eq_some_iff_digits.2 ⟨hdigits, rfl⟩)
    · exact congrArg (Option.map fun n : ℕ => -(n : ℤ)) (readNat?_eq_some_iff_digits.2 ⟨hdigits, rfl⟩)

end Integers

section Words

theorem toNat_toLower (c : Char) :
    c.toLower.toNat = if 65 ≤ c.toNat ∧ c.toNat ≤ 90 then c.toNat + 32 else c.toNat := by
  have hupper : c.val ≥ 'A'.val ∧ c.val ≤ 'Z'.val ↔ 65 ≤ c.toNat ∧ c.toNat ≤ 90 :=
    and_congr UInt32.le_iff_toNat_le UInt32.le_iff_toNat_le
  by_cases h : 65 ≤ c.toNat ∧ c.toNat ≤ 90
  · have hlower : c.toLower.val = c.val + ('a'.val - 'A'.val) := by
      delta Char.toLower
      rw [dif_pos (hupper.2 h)]
    have hadd : (c.val + ('a'.val - 'A'.val)).toNat = (c.toNat + 32) % 2 ^ 32 :=
      UInt32.toNat_add _ _
    rw [if_pos h, Char.toNat, hlower, hadd]
    omega
  · have hsame : c.toLower = c := dif_neg fun hc => h (hupper.1 hc)
    rw [if_neg h, hsame]

theorem toNat_toUpper {c : Char} (h : 'a' ≤ c ∧ c ≤ 'z') : c.toUpper.toNat = c.toNat - 32 := by
  have hlow : 97 ≤ c.toNat := UInt32.le_iff_toNat_le.1 h.1
  have hlt : c.toNat < 2 ^ 32 := c.val.toNat_lt
  have hlower : 'a'.val ≤ c.val ∧ c.val ≤ 'z'.val := h
  have hupper : c.toUpper.val = c.val + ('A'.val - 'a'.val) := by
    delta Char.toUpper
    rw [dif_pos hlower]
  have hadd : (c.val + ('A'.val - 'a'.val)).toNat = (c.toNat + (2 ^ 32 - 32)) % 2 ^ 32 :=
    UInt32.toNat_add _ _
  rw [Char.toNat, hupper, hadd]
  omega

theorem toLower_eq_iff {c letter : Char} (h : 'a' ≤ letter ∧ letter ≤ 'z') :
    c.toLower = letter ↔ c = letter ∨ c = letter.toUpper := by
  have hlow : 97 ≤ letter.toNat := UInt32.le_iff_toNat_le.1 h.1
  have hhigh : letter.toNat ≤ 122 := UInt32.le_iff_toNat_le.1 h.2
  simp only [← Char.toNat_inj, toNat_toLower, toNat_toUpper h]
  split <;> omega

theorem map_toLower_eq_iff {letters cs : List Char} (h : ∀ c ∈ letters, 'a' ≤ c ∧ c ≤ 'z') :
    cs.map Char.toLower = letters ↔ SpellsWord letters cs := by
  induction letters generalizing cs with
  | nil => rw [List.map_eq_nil_iff, SpellsWord, List.forall₂_nil_right_iff]
  | cons letter letters ih =>
    obtain ⟨hletter, hletters⟩ := List.forall_mem_cons.1 h
    cases cs with
    | nil => simp [SpellsWord]
    | cons c cs =>
      rw [List.map_cons, List.cons_eq_cons, toLower_eq_iff hletter, ih hletters, SpellsWord,
        SpellsWord, List.forall₂_cons]

theorem ofList_map_toLower_eq_iff {word : String} {cs : List Char}
    (h : ∀ c ∈ word.toList, 'a' ≤ c ∧ c ≤ 'z') :
    String.ofList (cs.map Char.toLower) = word ↔ SpellsWord word.toList cs := by
  rw [← map_toLower_eq_iff h, ← String.toList_inj, String.toList_ofList]

end Words

theorem encloses_iff {b : List UInt8} {core : List Char} :
    Encloses b core ↔ (SqlValue.bytes b).trimmedText? = some core := by
  simp only [Encloses, SqlValue.trimmedText?, Option.map_eq_some_iff, decode?_eq_some_iff, trim_eq_iff]

end Text

namespace SqlValue

theorem readTruth?_eq_some_iff {cs : List Char} {truth : Bool} :
    readTruth? cs = some truth ↔ Text.SpellsTruth cs truth := by
  have hyes : String.ofList (cs.map Char.toLower) = "true" ↔ Text.SpellsWord "true".toList cs :=
    Text.ofList_map_toLower_eq_iff (by simp)
  have hno : String.ofList (cs.map Char.toLower) = "false" ↔ Text.SpellsWord "false".toList cs :=
    Text.ofList_map_toLower_eq_iff (by simp)
  constructor
  · intro h
    unfold readTruth? at h
    dsimp only at h
    split at h
    · next hword =>
      cases h
      exact .yes (hyes.1 hword)
    · split at h
      · next hword =>
        cases h
        exact .no (hno.1 hword)
      · obtain ⟨n, hn, rfl⟩ := Option.map_eq_some_iff.1 ((map_ne_zero_readInt64? cs).symm.trans h)
        obtain ⟨hread, hrange⟩ := Option.filter_eq_some_iff.1 hn
        exact .int (Text.readInt?_eq_some_iff.1 hread) (SignedType.int64.inRange_bits_iff.1 hrange)
  · rintro (hword | hword | ⟨hint, hrange⟩)
    · exact if_pos (hyes.2 hword)
    · have hlower := hno.2 hword
      rw [readTruth?, hlower]
      rfl
    · have hmachine : inRange 64 _ = true := SignedType.int64.inRange_bits_iff.2 hrange
      rw [readTruth?_of_readInt? (Text.readInt?_eq_some_iff.2 hint), Option.filter_some,
        if_pos hmachine, Option.map_some]

theorem readBool?_bytes_eq_some_iff {b : List UInt8} {truth : Bool} :
    (SqlValue.bytes b).readBool? = some truth ↔
      ∃ core, Text.Encloses b core ∧ Text.SpellsTruth core truth := by
  simp only [readBool?, Option.bind_eq_some_iff, readTruth?_eq_some_iff, Text.encloses_iff]

theorem read?_bytes_eq_some_iff {b : List UInt8} {t : SignedType} {n : ℤ} :
    t.read? (.bytes b) = some n ↔
      (∃ core, Text.Encloses b core ∧ Text.SpellsInt core n) ∧ t.least ≤ n ∧ n ≤ t.greatest := by
  rw [SignedType.read?_eq_some_iff_of_filter (readInt?_bytes b)]
  simp only [Option.bind_eq_some_iff, Text.readInt?_eq_some_iff, Text.encloses_iff]

/-- Byte buffers read as the integers and the truth values that their texts spell. -/
theorem bytes_read_iff (b : List UInt8) :
    (∀ (t : SignedType) (n : ℤ), t.read? (.bytes b) = some n ↔
      (∃ core, Text.Encloses b core ∧ Text.SpellsInt core n) ∧ t.least ≤ n ∧ n ≤ t.greatest) ∧
    ∀ truth : Bool, ContentType.bool.read? (.bytes b) = some truth ↔
      ∃ core, Text.Encloses b core ∧ Text.SpellsTruth core truth :=
  ⟨fun _ _ => read?_bytes_eq_some_iff, fun _ => readBool?_bytes_eq_some_iff⟩

/-- An ideographic space, a minus sign, leading zeros and a line break. -/
example : SignedType.int8.read? (.bytes (Text.encode "\u3000-00128\n")) = some (-128) := by
  decide +kernel

/-- The digits of another script and a byte that begins no character. -/
example : SignedType.int64.read? (.bytes (Text.encode "\uff11")) = none ∧
    SignedType.int64.read? (.bytes [0x31, 0xff]) = none := by
  decide +kernel

end SqlValue
end BoundQuery
