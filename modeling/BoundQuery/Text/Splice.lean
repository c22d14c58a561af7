import BoundQuery.Text.Utf8

/-!
# Replacing spans

Several spans of a text are replaced at once. The spans ascend and count bytes
in the text as it was; all that lies in none of them is kept.
-/

namespace BoundQuery
namespace Text

/-- A text whose first character stands at the byte offset `start`, with each span replaced. Nothing
when the spans do not ascend or one has an end out of range or inside a character. -/
def replaceSpans? : (start : Nat) → List Char → List (Span × List Char) → Option (List Char)
  | _, cs, [] => some cs
  | start, cs, (span, new) :: edits =>
    if start ≤ span.start ∧ span.start ≤ span.stop then do
      let (before, rest) ← splitAt? (span.start - start) cs
      let (_, after) ← splitAt? span.length rest
      let later ← replaceSpans? span.stop after edits
      pure (before ++ new ++ later)
    else none

/-- The texts before, between and after some spans; nothing where nothing can be replaced. -/
def outside? : (start : Nat) → List Char → List Span → Option (List (List Char))
  | _, cs, [] => some [cs]
  | start, cs, span :: spans =>
    if start ≤ span.start ∧ span.start ≤ span.stop then do
      let (before, rest) ← splitAt? (span.start - start) cs
      let (_, after) ← splitAt? span.length rest
      let later ← outside? span.stop after spans
      pure (before :: later)
    else none

/-- The texts of two lists in turn, the first list's first. -/
def weave : List (List Char) → List (List Char) → List Char
  | kept :: later, new :: news => kept ++ new ++ weave later news
  | kept, _ => kept.flatten

@[simp] theorem replaceSpans?_nil (start : Nat) (cs : List Char) :
    replaceSpans? start cs [] = some cs := rfl

/-- Replacing puts the new texts between those that are kept. -/
theorem replaceSpans?_eq_weave (start : Nat) (cs : List Char) (edits : List (Span × List Char)) :
    replaceSpans? start cs edits =
      (outside? start cs (edits.map Prod.fst)).map (weave · (edits.map Prod.snd)) := by
  induction edits generalizing start cs with
  | nil => simp [outside?, weave]
  | cons e edits ih =>
    obtain ⟨span, new⟩ := e
    simp only [replaceSpans?, outside?, List.map_cons]
    split
    · cases splitAt? (span.start - start) cs with
      | none => rfl
      | some parts =>
        simp only [Option.bind_eq_bind, Option.bind_some]
        cases splitAt? span.length parts.2 with
        | none => rfl
        | some parts' =>
          simp only [Option.bind_some, ih]
          cases outside? span.stop parts'.2 (edits.map Prod.fst) <;> rfl
    · rfl

theorem outside?_ne_nil {start : Nat} {cs : List Char} {spans : List Span}
    {texts : List (List Char)} (h : outside? start cs spans = some texts) : texts ≠ [] := by
  cases spans with
  | nil =>
    cases h
    exact List.cons_ne_nil _ _
  | cons span spans =>
    simp only [outside?, Option.ite_none_right_eq_some, Option.bind_eq_bind,
      Option.bind_eq_some_iff] at h
    obtain ⟨_, parts, _, parts', _, later, _, htexts⟩ := h
    cases htexts
    exact List.cons_ne_nil _ _

theorem splitAt?_cons_of_le {start offset : Nat} {c : Char} (h : start + c.utf8Size ≤ offset)
    (cs : List Char) :
    splitAt? (offset - start) (c :: cs) =
      (splitAt? (offset - (start + c.utf8Size)) cs).map fun parts => (c :: parts.1, parts.2) := by
  have hpos := c.utf8Size_pos
  obtain ⟨n, hn⟩ : ∃ n, offset - start = n + 1 := ⟨offset - start - 1, by omega⟩
  rw [hn, splitAt?, if_pos (by omega)]
  congr 2
  omega

theorem outside?_cons {start : Nat} {c : Char} {cs : List Char} {spans : List Span}
    (h : ∀ span ∈ spans, start + c.utf8Size ≤ span.start) :
    outside? start (c :: cs) spans =
      (outside? (start + c.utf8Size) cs spans).map (List.modifyHead (c :: ·)) := by
  cases spans with
  | nil => rfl
  | cons span spans =>
    have hle : start + c.utf8Size ≤ span.start := h _ List.mem_cons_self
    by_cases hspan : span.start ≤ span.stop
    · simp only [outside?, splitAt?_cons_of_le hle, if_pos (And.intro hle hspan),
        if_pos (And.intro (Nat.le_trans (Nat.le_add_right _ _) hle) hspan)]
      cases splitAt? (span.start - (start + c.utf8Size)) cs with
      | none => rfl
      | some parts =>
        simp only [Option.map_some, Option.bind_eq_bind, Option.bind_some]
        cases splitAt? span.length parts.2 with
        | none => rfl
        | some parts' =>
          simp only [Option.bind_some]
          cases outside? span.stop parts'.2 spans <;> rfl
    · simp [outside?, hspan]

theorem outside?_append (start : Nat) (covered cs : List Char) (spans : List Span) :
    outside? start (covered ++ cs) (⟨start, start + byteLength covered⟩ :: spans) =
      (outside? (start + byteLength covered) cs spans).map ([] :: ·) := by
  have hlength : (Span.mk start (start + byteLength covered)).length = byteLength covered := by
    simp [Span.length]
  rw [outside?, if_pos (by simp)]
  simp only [Nat.sub_self, splitAt?_zero, hlength, splitAt?_append, Option.bind_eq_bind,
    Option.bind_some]
  cases outside? (start + byteLength covered) cs spans <;> rfl

theorem weave_modifyHead {texts : List (List Char)} (h : texts ≠ []) (c : Char)
    (news : List (List Char)) :
    weave (texts.modifyHead (c :: ·)) news = c :: weave texts news := by
  cases texts with
  | nil => exact absurd rfl h
  | cons kept later => cases news <;> simp [weave]

theorem replaceSpans?_cons {start : Nat} {c : Char} {cs : List Char}
    {edits : List (Span × List Char)} (h : ∀ e ∈ edits, start + c.utf8Size ≤ e.1.start) :
    replaceSpans? start (c :: cs) edits =
      (replaceSpans? (start + c.utf8Size) cs edits).map (c :: ·) := by
  have hspans : ∀ span ∈ edits.map Prod.fst, start + c.utf8Size ≤ span.start := by
    intro span hspan
    obtain ⟨e, he, rfl⟩ := List.mem_map.1 hspan
    exact h e he
  rw [replaceSpans?_eq_weave, outside?_cons hspans, replaceSpans?_eq_weave, Option.map_map,
    Option.map_map]
  apply Option.map_congr
  intro texts htexts
  exact weave_modifyHead (outside?_ne_nil htexts) c _

theorem replaceSpans?_append (start : Nat) (covered cs new : List Char)
    (edits : List (Span × List Char)) :
    replaceSpans? start (covered ++ cs) ((⟨start, start + byteLength covered⟩, new) :: edits) =
      (replaceSpans? (start + byteLength covered) cs edits).map (new ++ ·) := by
  simp only [replaceSpans?_eq_weave, List.map_cons, outside?_append, Option.map_map]
  rfl

end Text
end BoundQuery
