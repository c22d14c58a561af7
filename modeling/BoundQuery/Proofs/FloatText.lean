import BoundQuery.Ieee.Text
import BoundQuery.Proofs.TextIntegers

/-!
# Texts of floats

A text is read as a float of either width if it is a decimal, with a point and
a power of ten as it likes, or names infinity or NaN, behind at most one sign.
The texts are the same for both widths, as none is refused for its size.
-/

namespace BoundQuery

open Ieee (Number Format Decimal)

namespace Text

/-- The end of a decimal: nothing, or a power of ten behind the letter E in either case. -/
inductive SpellsExponent : List Char → Prop where
  | absent : SpellsExponent []
  | power {mark : Char} {cs : List Char} {n : ℤ} (hmark : mark = 'e' ∨ mark = 'E')
    (h : SpellsInt cs n) : SpellsExponent (mark :: cs)

/-- The decimals without a sign: one or more digits, a point anywhere beside them or none, and an
exponent. -/
inductive SpellsDecimal : List Char → Prop where
  | whole {digits exponent : List Char} (h : Digits digits) (hexponent : SpellsExponent exponent) :
    SpellsDecimal (digits ++ exponent)
  | pointed {whole fraction exponent : List Char} (h : Digits (whole ++ fraction))
    (hexponent : SpellsExponent exponent) : SpellsDecimal (whole ++ '.' :: (fraction ++ exponent))

/-- The texts of a float without a sign. -/
inductive SpellsMagnitude (cs : List Char) : Prop where
  | decimal (h : SpellsDecimal cs)
  | inf (h : SpellsWord "inf".toList cs)
  | infinity (h : SpellsWord "infinity".toList cs)
  | nan (h : SpellsWord "nan".toList cs)

/-- The texts of a float, a NaN included. -/
inductive SpellsFloat : List Char → Prop where
  | bare {cs : List Char} (h : SpellsMagnitude cs) : SpellsFloat cs
  | signed {sign : Char} {cs : List Char} (hsign : sign = '+' ∨ sign = '-')
    (h : SpellsMagnitude cs) : SpellsFloat (sign :: cs)

section Decimals

variable {cs ds rest : List Char}

theorem digits_iff : Digits ds ↔ ds ≠ [] ∧ ∀ c ∈ ds, c.isDigit = true := by
  simp only [isDigit_iff_between]
  exact ⟨fun h => ⟨h.ne_nil, h.between⟩, fun h => ⟨h.1, h.2⟩⟩

theorem forall_isDigit_takeWhile (cs : List Char) :
    ∀ c ∈ cs.takeWhile Char.isDigit, c.isDigit = true :=
  List.all_eq_true.1 List.all_takeWhile

theorem takeWhile_isDigit_append (hds : ∀ c ∈ ds, c.isDigit = true)
    (hrest : ∀ c ∈ rest.head?, c.isDigit = false) :
    (ds ++ rest).takeWhile Char.isDigit = ds ∧ (ds ++ rest).dropWhile Char.isDigit = rest := by
  rw [List.takeWhile_append_of_pos hds, List.dropWhile_append_of_pos hds]
  cases rest with
  | nil => simp
  | cons c rest =>
    have hc : c.isDigit = false := hrest c rfl
    simp [hc]

theorem isSome_readExponent?_iff : (Decimal.readExponent? cs).isSome = true ↔ SpellsExponent cs := by
  constructor
  · intro h
    obtain ⟨exponent, hread⟩ := Option.isSome_iff_exists.1 h
    unfold Decimal.readExponent? at hread
    split at hread
    · exact .absent
    · obtain ⟨hmark, hread⟩ := Option.ite_none_right_eq_some.1 hread
      obtain ⟨n, hn, _⟩ := Option.map_eq_some_iff.1 hread
      exact .power hmark (readInt?_eq_some_iff.1 hn)
  · rintro (_ | ⟨hmark, hint⟩)
    · rfl
    · rw [Decimal.readExponent?, if_pos hmark, readInt?_eq_some_iff.2 hint]
      rfl

theorem SpellsExponent.isDigit_head? (h : SpellsExponent cs) {c : Char} (hc : c ∈ cs.head?) :
    c.isDigit = false ∧ c ≠ '.' := by
  cases h with
  | absent => cases hc
  | power hmark _ =>
    cases hc
    rcases hmark with rfl | rfl <;> exact ⟨rfl, by decide⟩

theorem isSome_read?_of_point (h : cs.dropWhile Char.isDigit = '.' :: rest) :
    (Decimal.read? cs).isSome = true ↔
      cs.takeWhile Char.isDigit ++ rest.takeWhile Char.isDigit ≠ [] ∧
        SpellsExponent (rest.dropWhile Char.isDigit) := by
  rw [← isSome_readExponent?_iff, Decimal.read?]
  simp only [h]
  split
  · simp_all
  · cases Decimal.readExponent? (rest.dropWhile Char.isDigit) <;> simp_all

theorem isSome_read?_of_no_point (h : '.' ∉ (cs.dropWhile Char.isDigit).head?) :
    (Decimal.read? cs).isSome = true ↔
      cs.takeWhile Char.isDigit ≠ [] ∧ SpellsExponent (cs.dropWhile Char.isDigit) := by
  rw [← isSome_readExponent?_iff, Decimal.read?]
  split
  next fraction tail hparts =>
    split at hparts
    · next hrest =>
      rw [hrest] at h
      exact absurd rfl h
    · obtain ⟨rfl, rfl⟩ := Prod.mk.inj hparts
      split
      · simp_all
      · cases Decimal.readExponent? (cs.dropWhile Char.isDigit) <;> simp_all

/-- The reader of decimals accepts their texts and nothing else. -/
theorem isSome_read?_iff : (Decimal.read? cs).isSome = true ↔ SpellsDecimal cs := by
  constructor
  · intro h
    have hsplit : cs.takeWhile Char.isDigit ++ cs.dropWhile Char.isDigit = cs :=
      List.takeWhile_append_dropWhile
    by_cases hpoint : '.' ∈ (cs.dropWhile Char.isDigit).head?
    · obtain ⟨rest, hrest⟩ := List.head?_eq_some_iff.1 hpoint
      obtain ⟨hne, hexponent⟩ := (isSome_read?_of_point hrest).1 h
      have hdigits : Digits (cs.takeWhile Char.isDigit ++ rest.takeWhile Char.isDigit) := by
        refine digits_iff.2 ⟨hne, fun c hc => ?_⟩
        exact (List.mem_append.1 hc).elim (forall_isDigit_takeWhile _ c) (forall_isDigit_takeWhile _ c)
      rw [← hsplit, hrest, ← List.takeWhile_append_dropWhile (p := Char.isDigit) (l := rest)]
      exact .pointed hdigits hexponent
    · obtain ⟨hne, hexponent⟩ := (isSome_read?_of_no_point hpoint).1 h
      rw [← hsplit]
      exact .whole (digits_iff.2 ⟨hne, forall_isDigit_takeWhile cs⟩) hexponent
  · rintro (⟨hdigits, hexponent⟩ | ⟨hdigits, hexponent⟩)
    · obtain ⟨hne, hisDigit⟩ := digits_iff.1 hdigits
      obtain ⟨htake, hdrop⟩ := takeWhile_isDigit_append hisDigit
        fun c hc => (hexponent.isDigit_head? hc).1
      rw [isSome_read?_of_no_point, htake, hdrop]
      · exact ⟨hne, hexponent⟩
      · rw [hdrop]
        exact fun hc => (hexponent.isDigit_head? hc).2 rfl
    · obtain ⟨hne, hisDigit⟩ := digits_iff.1 hdigits
      obtain ⟨hwhole, hfraction⟩ := List.forall_mem_append.1 hisDigit
      have hpoint : ∀ tail : List Char, ∀ c ∈ ('.' :: tail).head?, c.isDigit = false := by
        intro tail c hc
        cases hc
        rfl
      obtain ⟨htake, hdrop⟩ := takeWhile_isDigit_append hwhole (hpoint _)
      obtain ⟨htake', hdrop'⟩ := takeWhile_isDigit_append hfraction
        fun c hc => (hexponent.isDigit_head? hc).1
      rw [isSome_read?_of_point hdrop, htake, htake', hdrop']
      exact ⟨hne, hexponent⟩

end Decimals

section Signs

variable {f : Format} {cs : List Char}

theorem isSome_readUnsigned?_iff (negative : Bool) :
    (Number.readUnsigned? f negative cs).isSome = true ↔ SpellsMagnitude cs := by
  have hinf : String.ofList (cs.map Char.toLower) = "inf" ↔ SpellsWord "inf".toList cs :=
    ofList_map_toLower_eq_iff (by simp)
  have hinfinity : String.ofList (cs.map Char.toLower) = "infinity" ↔
      SpellsWord "infinity".toList cs := ofList_map_toLower_eq_iff (by simp)
  have hnan : String.ofList (cs.map Char.toLower) = "nan" ↔ SpellsWord "nan".toList cs :=
    ofList_map_toLower_eq_iff (by simp)
  unfold Number.readUnsigned?
  dsimp only
  constructor
  · intro h
    split at h
    · next hword => exact hword.elim (fun h => .inf (hinf.1 h)) fun h => .infinity (hinfinity.1 h)
    · split at h
      · next hword => exact .nan (hnan.1 hword)
      · rw [Option.isSome_map] at h
        exact .decimal (isSome_read?_iff.1 h)
  · intro h
    split
    · rfl
    · next hnot =>
      split
      · rfl
      · next hnot' =>
        rw [Option.isSome_map]
        rcases h with h | h | h | h
        · exact isSome_read?_iff.2 h
        · exact absurd (Or.inl (hinf.2 h)) hnot
        · exact absurd (Or.inr (hinfinity.2 h)) hnot
        · exact absurd (hnan.2 h) hnot'

theorem SpellsMagnitude.head? (h : SpellsMagnitude cs) {c : Char} (hc : c ∈ cs.head?) :
    c ≠ '+' ∧ c ≠ '-' := by
  have hdigit : ∀ {d : Char}, d.isDigit = true → d ≠ '+' ∧ d ≠ '-' := by
    intro d hd
    constructor <;> rintro rfl <;> cases hd
  have hword : ∀ {letter : Char} {letters : List Char}, letter ≠ '+' ∧ letter ≠ '-' →
      letter.toUpper ≠ '+' ∧ letter.toUpper ≠ '-' → SpellsWord (letter :: letters) cs →
        c ≠ '+' ∧ c ≠ '-' := by
    rintro letter letters hlower hupper (_ | ⟨rfl | rfl, _⟩)
    · cases hc
      exact hlower
    · cases hc
      exact hupper
  cases h with
  | decimal h =>
    cases h with
    | @whole digits exponent hdigits _ =>
      obtain ⟨hne, hisDigit⟩ := digits_iff.1 hdigits
      obtain ⟨d, later, rfl⟩ := List.exists_cons_of_ne_nil hne
      cases hc
      exact hdigit (hisDigit _ List.mem_cons_self)
    | @pointed whole fraction exponent hdigits _ =>
      cases whole with
      | nil =>
        cases hc
        decide
      | cons d whole =>
        cases hc
        exact hdigit ((digits_iff.1 hdigits).2 _ List.mem_cons_self)
  | inf h => exact hword (by decide) (by decide) h
  | infinity h => exact hword (by decide) (by decide) h
  | nan h => exact hword (by decide) (by decide) h

/-- The reader of floats accepts their texts and nothing else. -/
theorem isSome_readFloat?_iff : (Number.read? f cs).isSome = true ↔ SpellsFloat cs := by
  constructor
  · intro h
    unfold Number.read? at h
    split at h
    · exact .signed (Or.inl rfl) ((isSome_readUnsigned?_iff _).1 h)
    · exact .signed (Or.inr rfl) ((isSome_readUnsigned?_iff _).1 h)
    · exact .bare ((isSome_readUnsigned?_iff _).1 h)
  · rintro (h | ⟨rfl | rfl, h⟩)
    · unfold Number.read?
      split
      · exact absurd rfl (h.head? rfl).1
      · exact absurd rfl (h.head? rfl).2
      · exact (isSome_readUnsigned?_iff _).2 h
    · exact (isSome_readUnsigned?_iff _).2 h
    · exact (isSome_readUnsigned?_iff _).2 h

end Signs

end Text
end BoundQuery
