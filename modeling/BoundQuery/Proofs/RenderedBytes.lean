import BoundQuery.Proofs.Substitution

/-!
# Rendering byte by byte

A rendering replaces single bytes of the text as it was: the question mark that a
slot points at gives way to the literal of the slot's argument, and every other
byte stays. So a slot that points elsewhere could as well be left out together
with its argument.
-/

namespace BoundQuery

open Text (byteLength encode)

def markByte : UInt8 := 63

/-- What the byte at an offset of the text gives way to. -/
def substitute (slots : List Nat) (args : List SqlValue) (offset : Nat) (b : UInt8) : List UInt8 :=
  match slots.idxOf? offset with
  | some i => if b = markByte then encode (args[i]?.elim "" SqlValue.literal) else [b]
  | none => [b]

variable {slots : List Nat}

theorem substitute_of_ne {b : UInt8} (h : b ≠ markByte) (slots : List Nat) (args : List SqlValue)
    (offset : Nat) : substitute slots args offset b = [b] := by
  unfold substitute
  split
  · exact if_neg h
  · rfl

theorem substitute_markByte (slots : List Nat) (args : List SqlValue) (offset : Nat) :
    substitute slots args offset markByte =
      ((fillingOf slots args offset).getD ['?']).flatMap String.utf8EncodeChar := by
  unfold substitute fillingOf
  cases slots.idxOf? offset with
  | some i => exact (if_pos rfl).trans (Text.encode_eq_flatMap _)
  | none => rfl

theorem flatten_mapIdx_substitute {bytes : List UInt8} (h : markByte ∉ bytes) (slots : List Nat)
    (args : List SqlValue) (start : Nat) :
    (bytes.mapIdx fun i b => substitute slots args (start + i) b).flatten = bytes := by
  induction bytes generalizing start with
  | nil => rfl
  | cons b bytes ih =>
    rw [List.mem_cons, not_or] at h
    have hrest := ih h.2 (start + 1)
    simp only [Nat.add_right_comm start 1, Nat.add_assoc start _ 1] at hrest
    rw [List.mapIdx_cons, List.flatten_cons, substitute_of_ne (Ne.symm h.1), hrest,
      List.singleton_append]

theorem markByte_notMem_utf8EncodeChar {c : Char} (h : c ≠ '?') :
    markByte ∉ String.utf8EncodeChar c := by
  intro hmem
  have hcode : c.toNat = '?'.toNat := Text.toNat_eq_of_mem_utf8EncodeChar hmem (by decide)
  exact h (Char.toNat_inj.1 hcode)

/-- Filling the marks of a text replaces bytes of its encoding. -/
theorem flatMap_fillMarks (slots : List Nat) (args : List SqlValue) (start : Nat) (cs : List Char) :
    (fillMarks (fillingOf slots args) start cs).flatMap String.utf8EncodeChar =
      ((cs.flatMap String.utf8EncodeChar).mapIdx
        fun i b => substitute slots args (start + i) b).flatten := by
  induction cs generalizing start with
  | nil => rfl
  | cons c cs ih =>
    have hrest := ih (start + c.utf8Size)
    simp only [Nat.add_right_comm start c.utf8Size, Nat.add_assoc start _ c.utf8Size] at hrest
    rw [fillMarks, List.flatMap_append, hrest, List.flatMap_cons, List.mapIdx_append,
      List.flatten_append, String.length_utf8EncodeChar]
    congr 1
    -- A mark is one byte, and of no other character is a byte a mark's.
    by_cases hc : c = '?'
    · subst hc
      have hmark : String.utf8EncodeChar '?' = [markByte] := rfl
      rw [if_pos rfl, ← substitute_markByte, hmark]
      simp
    · rw [if_neg hc, flatten_mapIdx_substitute (markByte_notMem_utf8EncodeChar hc),
        List.flatMap_singleton]

theorem head?_eraseIdx_succ (args : List SqlValue) (i : Nat) :
    (args.eraseIdx (i + 1)).head? = args.head? := by
  cases args <;> rfl

theorem tail_eraseIdx_succ (args : List SqlValue) (i : Nat) :
    (args.eraseIdx (i + 1)).tail = args.tail.eraseIdx i := by
  cases args <;> rfl

/-- Leaving out a slot that is not at an offset, together with its argument, changes nothing for
that offset. -/
theorem fillingOf_eraseIdx {i slot offset : Nat} (hslot : slots[i]? = some slot)
    (hne : slot ≠ offset) (args : List SqlValue) :
    fillingOf (slots.eraseIdx i) (args.eraseIdx i) offset = fillingOf slots args offset := by
  induction slots generalizing i args with
  | nil => simp at hslot
  | cons first slots ih =>
    cases i with
    | zero =>
      cases hslot
      rw [fillingOf_cons, if_neg hne, List.eraseIdx_zero, List.eraseIdx_zero, List.tail_cons]
    | succ i =>
      rw [List.eraseIdx_cons_succ, fillingOf_cons, fillingOf_cons, head?_eraseIdx_succ,
        tail_eraseIdx_succ, ih (by simpa using hslot)]

theorem getElem?_encode_of_mark {sql : String} {before after : List Char}
    (h : sql.toList = before ++ '?' :: after) :
    (encode sql)[byteLength before]? = some markByte := by
  rw [Text.encode_eq_flatMap, h, List.flatMap_append, ← Text.length_flatMap_utf8EncodeChar,
    List.getElem?_append_right (Nat.le_refl _), Nat.sub_self]
  rfl

theorem render_eraseIdx (sql : String) (h : slots.Pairwise (· < ·)) (args : List SqlValue)
    {i slot : Nat} (hslot : slots[i]? = some slot) (hno : (encode sql)[slot]? ≠ some markByte) :
    render sql (slots.eraseIdx i) (args.eraseIdx i) = render sql slots args := by
  rw [render_eq_fillMarks h, render_eq_fillMarks (h.sublist (List.eraseIdx_sublist slots i))]
  congr 1
  apply fillMarks_congr
  intro before after hsql
  have hne : slot ≠ 0 + byteLength before := by
    rintro rfl
    rw [Nat.zero_add] at hno
    exact hno (getElem?_encode_of_mark hsql)
  exact fillingOf_eraseIdx hslot hne args

/-- Rendering replaces all at once: each question mark that a slot points at, by the literal of the
slot's argument or by nothing where the arguments have run out, and no other byte. A slot that
points elsewhere uses up its argument and does nothing else. -/
theorem render_replaces_marks_at_once (sql : String) (slots : List Nat)
    (h : slots.Pairwise (· < ·)) (args : List SqlValue) :
    encode (render sql slots args) = ((encode sql).mapIdx (substitute slots args)).flatten ∧
    ∀ i slot, slots[i]? = some slot → (encode sql)[slot]? ≠ some markByte →
      render sql slots args = render sql (slots.eraseIdx i) (args.eraseIdx i) := by
  constructor
  · rw [render_eq_fillMarks h, Text.encode_ofList, flatMap_fillMarks, ← Text.encode_eq_flatMap]
    simp only [Nat.zero_add]
  · intro i slot hslot hno
    exact (render_eraseIdx sql h args hslot hno).symm

/-- Slots inside a character, at a letter and past the end take the arguments of no other slot. -/
theorem render_replaces_marks_at_once_among_stray_slots :
    let slots := [1, 2, 3, 4, 99]
    let args : List SqlValue := [.null, .text "?é", .int8 1]
    slots.Pairwise (· < ·) ∧
    encode (render "é?a?" slots args) = ((encode "é?a?").mapIdx (substitute slots args)).flatten ∧
    render "é?a?" slots args = "é'?é'a" ∧
    (encode "é?a?")[1]? ≠ some markByte ∧
    render "é?a?" slots args = render "é?a?" [2, 3, 4, 99] [.text "?é", .int8 1] := by
  intro slots args
  have hslots : slots.Pairwise (· < ·) := by decide
  have hstray : (encode "é?a?")[1]? ≠ some markByte := by decide +kernel
  obtain ⟨hbytes, herase⟩ := render_replaces_marks_at_once "é?a?" slots hslots args
  exact ⟨hslots, hbytes, by decide +kernel, hstray, herase 0 1 rfl hstray⟩

end BoundQuery
