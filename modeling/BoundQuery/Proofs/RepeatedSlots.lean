import BoundQuery.Proofs.RenderedBytes
import BoundQuery.Rendering.Words

/-!
# Slots that are given again

Slots that ascend may repeat, as long as every slot has an argument. Only the
first of equal slots fills its question mark. Each further one uses up its
argument and leaves the text as it is, the literal that stands there included, so
it could as well be left out together with its argument.
-/

namespace BoundQuery

open Text (encode)

variable {slots : List Nat}

theorem fillingOf_eraseIdx_of_repeated {i j slot : Nat} (hij : i < j)
    (hfirst : slots[i]? = some slot) (hagain : slots[j]? = some slot) (args : List SqlValue)
    (offset : Nat) :
    fillingOf (slots.eraseIdx j) (args.eraseIdx j) offset = fillingOf slots args offset := by
  by_cases hoffset : slot = offset
  · subst hoffset
    induction slots generalizing i j args with
    | nil => cases hfirst
    | cons head slots ih =>
      obtain ⟨j, rfl⟩ := Nat.exists_eq_succ_of_ne_zero (Nat.ne_of_gt (Nat.zero_lt_of_lt hij))
      rw [List.eraseIdx_cons_succ, fillingOf_cons, fillingOf_cons, head?_eraseIdx_succ,
        tail_eraseIdx_succ]
      split
      · rfl
      · next hne =>
        cases i with
        | zero => exact absurd (Option.some.inj hfirst) hne
        | succ i => exact ih (Nat.lt_of_succ_lt_succ hij) hfirst hagain args.tail
  · exact fillingOf_eraseIdx hagain hoffset args

/-- Of equal slots the first fills its question mark, and the others fill nothing, whatever was put
there. All else is as with distinct slots: no other byte changes, and no slot behind them moves. -/
theorem render_of_repeated (sql : String) (args : List SqlValue)
    (h : slots.Pairwise (· ≤ ·)) (hargs : slots.length ≤ args.length) :
    encode (render sql slots args) = ((encode sql).mapIdx (substitute slots args)).flatten ∧
    ∀ i j slot, i < j → slots[i]? = some slot → slots[j]? = some slot →
      render sql slots args = render sql (slots.eraseIdx j) (args.eraseIdx j) := by
  constructor
  · rw [render_eq_fillMarks_of_le h (Or.inr hargs), Text.encode_ofList, flatMap_fillMarks,
      ← Text.encode_eq_flatMap]
    simp only [Nat.zero_add]
  · intro i j slot hij hfirst hagain
    have hj : j < slots.length := (List.getElem?_eq_some_iff.1 hagain).1
    have hargs' : (slots.eraseIdx j).length ≤ (args.eraseIdx j).length := by
      rw [List.length_eraseIdx_of_lt hj, List.length_eraseIdx_of_lt (Nat.lt_of_lt_of_le hj hargs)]
      omega
    rw [render_eq_fillMarks_of_le h (Or.inr hargs),
      render_eq_fillMarks_of_le (h.sublist (List.eraseIdx_sublist slots j)) (Or.inr hargs')]
    congr 1
    exact fillMarks_congr fun _ _ _ =>
      (fillingOf_eraseIdx_of_repeated hij hfirst hagain args _).symm

/-- What a rendering with machine words makes of slots that ascend, with repeats and strays among
them and an argument for each. A program that checks its sums stops, or the first of equal slots has
filled its question mark and nothing else has changed; one that does not check them then makes the
same. No program stops at slots that fit. -/
theorem words_fill_repeated_slots_once (sql : String) (slots : List UInt64) (args : List SqlValue)
    (h : slots.Pairwise (· ≤ ·)) (hargs : slots.length ≤ args.length) :
    let offsets := slots.map UInt64.toNat
    (∀ text, renderWords? .stops sql slots args = some text →
      renderWords? .wraps sql slots args = some text ∧
      encode text = ((encode sql).mapIdx (substitute offsets args)).flatten ∧
      ∀ i j slot, i < j → slots[i]? = some slot → slots[j]? = some slot →
        text = render sql (offsets.eraseIdx j) (args.eraseIdx j)) ∧
    (Fits slots args → ∃ text, ∀ o, renderWords? o sql slots args = some text) := by
  intro offsets
  have hoffsets : offsets.Pairwise (· ≤ ·) := by
    apply h.map
    intro a b hle
    exact UInt64.le_iff_toNat_le.1 hle
  have hlength : offsets.length ≤ args.length := by
    rw [List.length_map]
    exact hargs
  obtain ⟨hbytes, hagain⟩ := render_of_repeated sql args hoffsets hlength
  constructor
  · intro text htext
    obtain ⟨hwraps, rfl⟩ := renderWords?_of_stops (o := .wraps) htext
    refine ⟨hwraps, hbytes, fun i j slot hij hfirst hrepeat => ?_⟩
    apply hagain i j slot.toNat hij
    · rw [List.getElem?_map, hfirst, Option.map_some]
    · rw [List.getElem?_map, hrepeat, Option.map_some]
  · intro hfits
    exact ⟨_, fun o => renderWords?_of_fits hfits o sql⟩

/-- A slot that comes three times, once behind a text that itself ends in a question mark, among
stray slots that repeat too. -/
theorem words_fill_repeated_slots_once_behind_quoted_mark :
    let slots : List UInt64 := [1, 1, 2, 2, 2, 4, 99, 99]
    let offsets := slots.map UInt64.toNat
    let args : List SqlValue :=
      [.null, .null, .text "é?", .int8 1, .bytes [], .float64 ⟨0x7ff0000000000000#64⟩, .null, .null]
    slots.Pairwise (· ≤ ·) ∧ slots.length ≤ args.length ∧ Fits slots args ∧
    ∀ o, renderWords? o "é?a?" slots args = some "é'é?'ainf" ∧
      encode "é'é?'ainf" = ((encode "é?a?").mapIdx (substitute offsets args)).flatten ∧
      "é'é?'ainf" = render "é?a?" (offsets.eraseIdx 4) (args.eraseIdx 4) := by
  intro slots offsets args
  have hslots : slots.Pairwise (· ≤ ·) := by decide
  have hargs : slots.length ≤ args.length := by decide
  have hoffsets : slots.all fun slot => slot.toNat + literalBytes args + 1 < UInt64.size := by
    decide +kernel
  have hfits : Fits slots args :=
    ⟨fun slot hslot => of_decide_eq_true (List.all_eq_true.1 hoffsets slot hslot), by decide⟩
  obtain ⟨hfilled, hexists⟩ := words_fill_repeated_slots_once "é?a?" slots args hslots hargs
  obtain ⟨text, htext⟩ := hexists hfits
  obtain ⟨-, hbytes, hagain⟩ := hfilled text (htext .stops)
  obtain rfl : text = "é'é?'ainf" := by
    have hrendered : renderWords? .stops "é?a?" slots args = some "é'é?'ainf" := by decide +kernel
    exact Option.some.inj ((htext .stops).symm.trans hrendered)
  exact ⟨hslots, hargs, hfits, fun o => ⟨htext o, hbytes, hagain 2 4 2 (by decide) rfl rfl⟩⟩

/-- The greatest slot points at no question mark, but its sum with what was inserted wraps around to
the one in the text inserted before it: the literal is damaged, or the program stops. -/
theorem stray_slot_damages_literal :
    let slots : List UInt64 := [0, 18446744073709551615]
    let args : List SqlValue := [.text "?", .int8 7]
    slots.Pairwise (· ≤ ·) ∧ slots.length ≤ args.length ∧
    ((encode "?").mapIdx (substitute (slots.map UInt64.toNat) args)).flatten = encode "'?'" ∧
    renderWords? .wraps "?" slots args = some "'7'" ∧
    renderWords? .stops "?" slots args = none := by
  decide +kernel

end BoundQuery
