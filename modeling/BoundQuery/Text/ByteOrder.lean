import BoundQuery.Text.Utf8

/-!
# The order of texts by their bytes

Texts compared byte by byte in UTF-8 come in the order of their code points: a
longer encoding of a character begins with a greater byte, and between two of
one length the first group of bits that differs decides.
-/

namespace BoundQuery
namespace Text

theorem cons_ofNat_lt_cons_ofNat {m n : Nat} {xs ys : List UInt8} (hn : n < 256) (hle : m ≤ n)
    (hrest : m = n → xs < ys) : UInt8.ofNat m :: xs < UInt8.ofNat n :: ys := by
  rcases Nat.lt_or_eq_of_le hle with hlt | rfl
  · have hbyte : UInt8.ofNat m < UInt8.ofNat n := by
      rwa [UInt8.lt_iff_toNat_lt, UInt8.toNat_ofNat_of_lt' (Nat.lt_trans hlt hn),
        UInt8.toNat_ofNat_of_lt' hn]
    exact List.cons_lt_cons_iff.2 (Or.inl hbyte)
  · exact List.cons_lt_cons_iff.2 (Or.inr ⟨rfl, hrest rfl⟩)

/-- The bytes of a character decide, whatever follows them. -/
theorem utf8EncodeChar_append_lt {c d : Char} (h : c < d) (xs ys : List UInt8) :
    String.utf8EncodeChar c ++ xs < String.utf8EncodeChar d ++ ys := by
  have hlt : c.val.toNat < d.val.toNat := UInt32.lt_iff_toNat_lt.1 h
  have hbound : d.val.toNat < 0x110000 := by
    rcases d.valid with h | ⟨_, h⟩
    · exact Nat.lt_trans h (by decide)
    · exact h
  unfold String.utf8EncodeChar
  dsimp only
  generalize c.val.toNat = v at *
  generalize d.val.toNat = w at *
  -- one case for each pair of lengths; those with the greater character shorter cannot be
  repeat' split
  all_goals
    try omega
  all_goals
    repeat refine cons_ofNat_lt_cons_ofNat (by omega) (by omega) fun heq => ?_
    omega

theorem flatMap_utf8EncodeChar_lt {cs ds : List Char} (h : cs < ds) :
    cs.flatMap String.utf8EncodeChar < ds.flatMap String.utf8EncodeChar := by
  induction cs generalizing ds with
  | nil =>
    cases ds with
    | nil => exact absurd h (List.not_lt_nil [])
    | cons d ds =>
      have hlength : 0 < ((d :: ds).flatMap String.utf8EncodeChar).length := by
        have hpos := d.utf8Size_pos
        rw [length_flatMap_utf8EncodeChar, byteLength_cons]
        omega
      obtain ⟨b, bs, hbytes⟩ := List.exists_cons_of_length_pos hlength
      rw [hbytes]
      exact List.nil_lt_cons b bs
  | cons c cs ih =>
    cases ds with
    | nil => exact absurd h (List.not_lt_nil _)
    | cons d ds =>
      rw [List.flatMap_cons, List.flatMap_cons]
      rcases List.cons_lt_cons_iff.1 h with hlt | ⟨rfl, hrest⟩
      · exact utf8EncodeChar_append_lt hlt _ _
      · exact List.append_left_lt (ih hrest)

theorem encode_lt_encode {s t : String} (h : s < t) : encode s < encode t := by
  rw [encode_eq_flatMap, encode_eq_flatMap]
  exact flatMap_utf8EncodeChar_lt (String.lt_iff.1 h)

theorem encode_lt_encode_iff {s t : String} : encode s < encode t ↔ s < t := by
  constructor
  · intro h
    refine Decidable.by_contra fun hnot => ?_
    rcases Decidable.em (t < s) with hgt | hngt
    · exact List.lt_asymm h (encode_lt_encode hgt)
    · have heq : s = t := String.le_antisymm (String.not_lt.1 hngt) (String.not_lt.1 hnot)
      subst heq
      exact List.lt_irrefl _ h
  · exact encode_lt_encode

end Text
end BoundQuery
