/-!
# Decimal integers

The grammar of integers in text is one optional sign and then one or more ASCII
digits, with any number of leading zeros and nothing else. The value is read
exactly; a range is the reader's own concern.
-/

namespace BoundQuery
namespace Text

def readNat? (cs : List Char) : Option Nat :=
  if cs ≠ [] ∧ cs.all Char.isDigit then some (Nat.ofDigitChars 10 cs 0) else none

/-- An optional plus sign, then digits. -/
def readUnsigned? : List Char → Option Nat
  | '+' :: cs => readNat? cs
  | cs => readNat? cs

/-- An optional sign of either kind, then digits. -/
def readInt? : List Char → Option Int
  | '-' :: cs => (readNat? cs).map fun (n : Nat) => -(n : Int)
  | cs => (readUnsigned? cs).map Int.ofNat

theorem readNat?_eq_some_iff {cs : List Char} {n : Nat} :
    readNat? cs = some n ↔
      cs ≠ [] ∧ (∀ c ∈ cs, c.isDigit = true) ∧ Nat.ofDigitChars 10 cs 0 = n := by
  simp [readNat?, and_assoc]

theorem isDigit_of_mem_toDigits {n : Nat} {c : Char} (h : c ∈ Nat.toDigits 10 n) :
    c.isDigit = true :=
  Nat.isDigit_of_mem_toDigits (by decide) (by decide) h

theorem readNat?_toDigits (n : Nat) : readNat? (Nat.toDigits 10 n) = some n :=
  readNat?_eq_some_iff.2
    ⟨Nat.toDigits_ne_nil, fun _ => isDigit_of_mem_toDigits, Nat.ofDigitChars_ten_toDigits⟩

/-- The canonical decimal text: no leading zero, and a sign only below zero. -/
def showInt (n : Int) : List Char :=
  if n < 0 then '-' :: Nat.toDigits 10 n.natAbs else Nat.toDigits 10 n.natAbs

theorem readUnsigned?_of_isDigit {c : Char} {cs : List Char} (h : c.isDigit = true) :
    readUnsigned? (c :: cs) = readNat? (c :: cs) := by
  unfold readUnsigned?
  split
  · next heq =>
    simp only [List.cons.injEq] at heq
    obtain ⟨rfl, _⟩ := heq
    simp at h
  · rfl

theorem readInt?_of_isDigit {c : Char} {cs : List Char} (h : c.isDigit = true) :
    readInt? (c :: cs) = (readNat? (c :: cs)).map Int.ofNat := by
  unfold readInt?
  split
  · next heq =>
    simp only [List.cons.injEq] at heq
    obtain ⟨rfl, _⟩ := heq
    simp at h
  · rw [readUnsigned?_of_isDigit h]

theorem showInt_ne_nil (n : Int) : showInt n ≠ [] := by
  unfold showInt
  split
  · exact List.cons_ne_nil _ _
  · exact Nat.toDigits_ne_nil

theorem isDigit_or_eq_of_mem_showInt {n : Int} {c : Char} (h : c ∈ showInt n) :
    c.isDigit = true ∨ c = '-' := by
  unfold showInt at h
  split at h
  · rcases List.mem_cons.1 h with rfl | h
    · exact Or.inr rfl
    · exact Or.inl (isDigit_of_mem_toDigits h)
  · exact Or.inl (isDigit_of_mem_toDigits h)

theorem ofList_showInt (n : Int) : String.ofList (showInt n) = toString n := by
  cases n with
  | ofNat m =>
    have hnonneg : ¬ Int.ofNat m < 0 := Int.not_lt.2 (Int.natCast_nonneg m)
    rw [showInt, if_neg hnonneg]
    rfl
  | negSucc m =>
    rw [showInt, if_pos (Int.negSucc_lt_zero m), String.ofList_cons]
    rfl

theorem exists_isDigit_of_readNat? {cs : List Char} {n : Nat} (h : readNat? cs = some n) :
    ∃ c ∈ cs, c.isDigit = true := by
  obtain ⟨hne, hdigits, _⟩ := readNat?_eq_some_iff.1 h
  obtain ⟨c, later, rfl⟩ := List.exists_cons_of_ne_nil hne
  exact ⟨c, List.mem_cons_self, hdigits c List.mem_cons_self⟩

theorem exists_isDigit_of_readUnsigned? {cs : List Char} {n : Nat} (h : readUnsigned? cs = some n) :
    ∃ c ∈ cs, c.isDigit = true := by
  unfold readUnsigned? at h
  split at h
  · obtain ⟨c, hc, hdigit⟩ := exists_isDigit_of_readNat? h
    exact ⟨c, List.mem_cons_of_mem _ hc, hdigit⟩
  · exact exists_isDigit_of_readNat? h

theorem exists_isDigit_of_readInt? {cs : List Char} {n : Int} (h : readInt? cs = some n) :
    ∃ c ∈ cs, c.isDigit = true := by
  unfold readInt? at h
  split at h
  · obtain ⟨m, hm, _⟩ := Option.map_eq_some_iff.1 h
    obtain ⟨c, hc, hdigit⟩ := exists_isDigit_of_readNat? hm
    exact ⟨c, List.mem_cons_of_mem _ hc, hdigit⟩
  · obtain ⟨m, hm, _⟩ := Option.map_eq_some_iff.1 h
    exact exists_isDigit_of_readUnsigned? hm

theorem readInt?_showInt (n : Int) : readInt? (showInt n) = some n := by
  unfold showInt
  split
  · have hn : -(n.natAbs : Int) = n := by omega
    simp only [readInt?, readNat?_toDigits, Option.map_some, hn]
  · have hn : (n.natAbs : Int) = n := by omega
    obtain ⟨c, cs, hcs⟩ := List.exists_cons_of_ne_nil (Nat.toDigits_ne_nil (b := 10) (n := n.natAbs))
    have hc : c.isDigit = true := isDigit_of_mem_toDigits (n := n.natAbs) (by simp [hcs])
    have hread := readNat?_toDigits n.natAbs
    rw [hcs] at hread
    simp only [hcs, readInt?_of_isDigit hc, hread, Option.map_some, Int.ofNat_eq_natCast, hn]

theorem showInt_inj {n m : Int} : showInt n = showInt m ↔ n = m := by
  constructor
  · intro h
    have hread := congrArg readInt? h
    rw [readInt?_showInt, readInt?_showInt] at hread
    exact Option.some.inj hread
  · exact congrArg showInt

end Text
end BoundQuery
