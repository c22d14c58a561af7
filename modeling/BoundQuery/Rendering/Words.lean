import BoundQuery.Rendering

/-!
# Rendering with machine words

Offsets are words of 64 bits, and a slot may be any word. So the sum of a slot
and what was inserted before it may not fit. A program that checks its sums stops
there; one that does not goes on with the sum modulo the size of a word, and
looks for a question mark where the slot never pointed. Sums that fit make the
same rendering as offsets without a bound.
-/

namespace BoundQuery

open Text (byteLength)

/-- What becomes of a sum that does not fit in a word. -/
inductive Overflow where
  | stops
  | wraps
  deriving DecidableEq, Repr

/-- The word for a sum, unless the program stops. -/
def Overflow.word? (o : Overflow) (sum : Nat) : Option UInt64 :=
  if sum < UInt64.size then some (.ofNat sum)
  else
    match o with
    | .stops => none
    | .wraps => some (.ofNat sum)

/-- A text part of whose slots are filled, with the counts in words. -/
structure WordRendering where
  text : List Char
  inserted : UInt64
  removed : UInt64

namespace WordRendering

def start (sql : String) : WordRendering := ⟨sql.toList, 0, 0⟩

/-- Where a slot points now, unless that is before the text or past all offsets. -/
def target? (o : Overflow) (w : WordRendering) (slot : UInt64) : Option (Option UInt64) := do
  let moved ← o.word? (slot.toNat + w.inserted.toNat)
  if moved < w.removed then return none
  let offset := moved - w.removed
  let stop ← o.word? (offset.toNat + 1)
  -- A range whose end has wrapped around covers no text.
  return if stop < offset then none else some offset

/-- Puts a literal in place of the question mark that a slot points at now, if there is one. -/
def fill? (o : Overflow) (w : WordRendering) (slot : UInt64) (literal : String) :
    Option WordRendering := do
  match ← w.target? o slot with
  | none => return w
  | some offset =>
    match Text.splitAt? offset.toNat w.text with
    | some (before, '?' :: after) =>
      let inserted ← o.word? (w.inserted.toNat + byteLength literal.toList)
      let removed ← o.word? (w.removed.toNat + 1)
      return ⟨before ++ literal.toList ++ after, inserted, removed⟩
    | _ => return w

/-- Fills the slots in order, as long as the program does not stop. -/
def fillAll? (o : Overflow) (w : WordRendering) : List UInt64 → List SqlValue → Option WordRendering
  | [], _ => some w
  | slot :: slots, args => do
    let w ← w.fill? o slot (args.head?.elim "" SqlValue.literal)
    fillAll? o w slots args.tail

def unbounded (w : WordRendering) : Rendering := ⟨w.text, w.inserted.toNat, w.removed.toNat⟩

end WordRendering

/-- How many bytes the literals of some arguments have. -/
def literalBytes (args : List SqlValue) : Nat :=
  byteLength (args.flatMap fun v => v.literal.toList)

/-- Whether all that is counted on the way fits in words: each slot behind all literals, and the
number of slots. -/
structure Fits (slots : List UInt64) (args : List SqlValue) : Prop where
  offset : ∀ slot ∈ slots, slot.toNat + literalBytes args + 1 < UInt64.size
  count : slots.length < UInt64.size

/-- The text with each slot's question mark replaced by the literal of its argument, unless the
program stops. -/
def renderWords? (o : Overflow) (sql : String) (slots : List UInt64) (args : List SqlValue) :
    Option String :=
  ((WordRendering.start sql).fillAll? o slots args).map fun w => String.ofList w.text

namespace Overflow

theorem word?_stops_eq_some_iff {sum : Nat} {word : UInt64} :
    stops.word? sum = some word ↔ word.toNat = sum := by
  constructor
  · intro h
    unfold word? at h
    split at h
    · next hlt =>
      cases h
      exact UInt64.toNat_ofNat_of_lt' hlt
    · cases h
  · rintro rfl
    rw [word?, if_pos word.toNat_lt_size, UInt64.ofNat_toNat]

theorem word?_of_lt (o : Overflow) {sum : Nat} (h : sum < UInt64.size) :
    o.word? sum = some (.ofNat sum) := if_pos h

theorem word?_of_stops {o : Overflow} {sum : Nat} {word : UInt64}
    (h : stops.word? sum = some word) : o.word? sum = some word := by
  obtain rfl := word?_stops_eq_some_iff.1 h
  rw [o.word?_of_lt word.toNat_lt_size, UInt64.ofNat_toNat]

end Overflow

namespace WordRendering

variable {o : Overflow} {w w' : WordRendering} {slot : UInt64} {literal : String}

/-- Whether a slot points at an offset of the text by the exact sums, or before the text. -/
def PointsAt (w : WordRendering) (slot : UInt64) : Option UInt64 → Prop
  | none => slot.toNat + w.inserted.toNat < w.removed.toNat
  | some offset => slot.toNat + w.inserted.toNat = offset.toNat + w.removed.toNat

theorem target?_of_stops {target : Option UInt64} (h : w.target? .stops slot = some target) :
    w.target? o slot = some target ∧ w.PointsAt slot target := by
  simp only [target?, Option.bind_eq_bind, Option.bind_eq_some_iff] at h
  obtain ⟨moved, hmoved, h⟩ := h
  have hsum := Overflow.word?_stops_eq_some_iff.1 hmoved
  simp only [target?, Overflow.word?_of_stops hmoved, Option.bind_eq_bind, Option.bind_some]
  by_cases hbefore : moved < w.removed
  · rw [if_pos hbefore] at h ⊢
    obtain rfl := Option.some.inj h
    refine ⟨rfl, ?_⟩
    rw [PointsAt, ← hsum]
    exact UInt64.lt_iff_toNat_lt.1 hbefore
  · rw [if_neg hbefore] at h ⊢
    obtain ⟨stop, hstop, h⟩ := Option.bind_eq_some_iff.1 h
    have hle := UInt64.not_lt.1 hbefore
    have hremoved := UInt64.le_iff_toNat_le.1 hle
    have hoffset := UInt64.toNat_sub_of_le _ _ hle
    have hnext := Overflow.word?_stops_eq_some_iff.1 hstop
    have hbehind : ¬ stop < moved - w.removed := by
      rw [UInt64.lt_iff_toNat_lt]
      omega
    rw [if_neg hbehind] at h
    obtain rfl := Option.some.inj h
    refine ⟨?_, ?_⟩
    · rw [Overflow.word?_of_stops hstop, Option.bind_some, if_neg hbehind]
      rfl
    · rw [PointsAt]
      omega

/-- A slot that a program fills without a sum too large is filled by any other program in the same
way, and by one with unbounded counts. -/
theorem fill?_of_stops (h : w.fill? .stops slot literal = some w') :
    w.fill? o slot literal = some w' ∧ w.unbounded.fill slot.toNat literal = w'.unbounded := by
  simp only [fill?, Option.bind_eq_bind, Option.bind_eq_some_iff] at h
  obtain ⟨target, htarget, h⟩ := h
  obtain ⟨hany, hpoints⟩ := target?_of_stops (o := o) htarget
  simp only [fill?, hany, Option.bind_eq_bind, Option.bind_some]
  cases target with
  | none =>
    obtain rfl := Option.some.inj h
    exact ⟨rfl, if_neg (Nat.not_le.2 hpoints)⟩
  | some offset =>
    rw [PointsAt] at hpoints
    have hat : w.unbounded.removed ≤ slot.toNat + w.unbounded.inserted ∧
        slot.toNat + w.unbounded.inserted - w.unbounded.removed = offset.toNat := by
      simp only [unbounded]
      omega
    dsimp only at h ⊢
    split at h
    · next before after hsplit =>
      obtain ⟨inserted, hinserted, h⟩ := Option.bind_eq_some_iff.1 h
      obtain ⟨removed, hremoved, h⟩ := Option.bind_eq_some_iff.1 h
      obtain rfl := Option.some.inj h
      rw [Overflow.word?_of_stops hinserted, Overflow.word?_of_stops hremoved,
        Rendering.fill_of_splitAt? hat.1 (hat.2 ▸ hsplit)]
      refine ⟨rfl, ?_⟩
      simp only [unbounded, Overflow.word?_stops_eq_some_iff.1 hinserted,
        Overflow.word?_stops_eq_some_iff.1 hremoved]
    · next hno =>
      obtain rfl := Option.some.inj h
      refine ⟨rfl, Rendering.fill_of_no_mark literal fun _ before after hsplit => ?_⟩
      exact hno before after (hat.2 ▸ hsplit)

theorem exists_fill? (o : Overflow) (w : WordRendering) (slot : UInt64) (literal : String)
    (hslot : slot.toNat + w.inserted.toNat + 1 < UInt64.size)
    (hinserted : w.inserted.toNat + byteLength literal.toList < UInt64.size)
    (hremoved : w.removed.toNat + 1 < UInt64.size) :
    ∃ w', w.fill? o slot literal = some w' ∧
      w'.inserted.toNat ≤ w.inserted.toNat + byteLength literal.toList ∧
      w'.removed.toNat ≤ w.removed.toNat + 1 := by
  have hself : w.inserted.toNat ≤ w.inserted.toNat + byteLength literal.toList ∧
      w.removed.toNat ≤ w.removed.toNat + 1 := ⟨Nat.le_add_right _ _, Nat.le_add_right _ _⟩
  obtain ⟨target, htarget⟩ : ∃ target, w.target? o slot = some target := by
    have hmoved := UInt64.toNat_ofNat_of_lt' (n := slot.toNat + w.inserted.toNat) (by omega)
    simp only [target?, o.word?_of_lt (Nat.lt_of_succ_lt hslot), Option.bind_eq_bind,
      Option.bind_some]
    split
    · exact ⟨_, rfl⟩
    · have hle := UInt64.toNat_sub_of_le _ _ (UInt64.not_lt.1 ‹_›)
      rw [o.word?_of_lt (by omega), Option.bind_some]
      exact ⟨_, rfl⟩
  simp only [fill?, htarget, o.word?_of_lt hinserted, o.word?_of_lt hremoved, Option.bind_eq_bind,
    Option.bind_some]
  cases target with
  | none => exact ⟨w, rfl, hself⟩
  | some offset =>
    dsimp only
    split
    · refine ⟨_, rfl, ?_, ?_⟩
      · exact Nat.le_of_eq (UInt64.toNat_ofNat_of_lt' hinserted)
      · exact Nat.le_of_eq (UInt64.toNat_ofNat_of_lt' hremoved)
    · exact ⟨w, rfl, hself⟩

theorem literal_add_tail_le (args : List SqlValue) :
    byteLength (args.head?.elim "" SqlValue.literal).toList + literalBytes args.tail ≤
      literalBytes args := by
  cases args with
  | nil => exact Nat.le_refl _
  | cons v args => simp [literalBytes]

/-- While slots are filled, what is still to be counted fits on top of what was. -/
theorem exists_fillAll? (o : Overflow) {slots : List UInt64} {args : List SqlValue}
    (hslots : ∀ slot ∈ slots,
      slot.toNat + w.inserted.toNat + literalBytes args + 1 < UInt64.size)
    (hremoved : w.removed.toNat + slots.length < UInt64.size) :
    ∃ w', w.fillAll? o slots args = some w' := by
  induction slots generalizing w args with
  | nil => exact ⟨w, rfl⟩
  | cons slot slots ih =>
    have hslot := hslots slot List.mem_cons_self
    have hbytes := literal_add_tail_le args
    rw [List.length_cons] at hremoved
    obtain ⟨next, hnext, hinserted', hremoved'⟩ := w.exists_fill? o slot
      (args.head?.elim "" SqlValue.literal) (by omega) (by omega) (by omega)
    rw [fillAll?, hnext]
    apply ih
    · intro later hmem
      have hlater := hslots later (List.mem_cons_of_mem _ hmem)
      omega
    · omega

theorem fillAll?_of_stops {slots : List UInt64} {args : List SqlValue}
    (h : w.fillAll? .stops slots args = some w') :
    w.fillAll? o slots args = some w' ∧
      w.unbounded.fillAll (slots.map UInt64.toNat) args = w'.unbounded := by
  induction slots generalizing w args with
  | nil =>
    obtain rfl := Option.some.inj h
    exact ⟨rfl, rfl⟩
  | cons slot slots ih =>
    obtain ⟨next, hnext, h⟩ := Option.bind_eq_some_iff.1 h
    obtain ⟨hfill, hexact⟩ := fill?_of_stops (o := o) hnext
    obtain ⟨hany, hrest⟩ := ih h
    rw [fillAll?, hfill, List.map_cons, Rendering.fillAll, hexact]
    exact ⟨hany, hrest⟩

end WordRendering

/-- A program that checks its sums makes the rendering by unbounded offsets, or it stops. Where it
does not stop, one that lets sums wrap around makes the same. -/
theorem renderWords?_of_stops {o : Overflow} {sql : String} {slots : List UInt64}
    {args : List SqlValue} {text : String} (h : renderWords? .stops sql slots args = some text) :
    renderWords? o sql slots args = some text ∧ render sql (slots.map UInt64.toNat) args = text := by
  obtain ⟨w, hw, rfl⟩ := Option.map_eq_some_iff.1 h
  obtain ⟨hany, hexact⟩ := WordRendering.fillAll?_of_stops (o := o) hw
  have hstart : (WordRendering.start sql).unbounded = Rendering.start sql := rfl
  refine ⟨by rw [renderWords?, hany, Option.map_some], ?_⟩
  rw [render, ← hstart, hexact, WordRendering.unbounded]

theorem renderWords?_of_fits {slots : List UInt64} {args : List SqlValue} (h : Fits slots args)
    (o : Overflow) (sql : String) :
    renderWords? o sql slots args = some (render sql (slots.map UInt64.toNat) args) := by
  have hslots : ∀ slot ∈ slots, slot.toNat + (WordRendering.start sql).inserted.toNat +
      literalBytes args + 1 < UInt64.size := h.offset
  have hremoved : (WordRendering.start sql).removed.toNat + slots.length < UInt64.size := by
    have hzero : (WordRendering.start sql).removed.toNat = 0 := rfl
    rw [hzero, Nat.zero_add]
    exact h.count
  obtain ⟨w, hw⟩ := WordRendering.exists_fillAll? .stops hslots hremoved
  obtain ⟨hany, hexact⟩ := renderWords?_of_stops (o := o) (by rw [renderWords?, hw]; rfl)
  rw [hany, hexact]

end BoundQuery
