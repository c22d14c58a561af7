import BoundQuery.Template.Basic
import Mathlib.Tactic.ByContra

/-!
# The one reading of a query

Which placeholders a query has is said here of its text alone: what stands in a
span, what may stand behind it, and when a marker outside all spans opens
nothing. Exactly one list of placeholders satisfies this, and the scan finds it.
-/

namespace BoundQuery

open Text (byteLength isBlank Span)

namespace Grammar

/-- Whether `covered`, with `after` behind it, is an occurrence of the parameter `name`. -/
def Occurs : Grammar → (covered name after : List Char) → Prop
  | .sigil m, covered, name, after =>
    covered = m :: name ∧ name ≠ [] ∧ (∀ c ∈ name, isBlank c = false) ∧
      ∀ c ∈ after.head?, isBlank c = true
  | .delimited m, covered, name, _ =>
    covered = m :: name ++ [m] ∧ name ≠ [] ∧ ∀ c ∈ name, c ≠ m ∧ isBlank c = false

/-- Whether a marker with `after` behind it opens no parameter: white space or the end follows it,
or the run up to the next marker or white space is empty or ends without a marker. -/
def OpensNothing : Grammar → (after : List Char) → Prop
  | .sigil _, after => ∀ c ∈ after.head?, isBlank c = true
  | .delimited m, after => ∀ run rest, after = run ++ m :: rest →
      (∀ c ∈ run, c ≠ m ∧ isBlank c = false) → run = []

variable {g : Grammar}

theorem isNameChar_delimited {m c : Char} :
    (delimited m).isNameChar c = true ↔ c ≠ m ∧ isBlank c = false := by
  simp [isNameChar]

theorem occurs_iff {covered name after : List Char} :
    g.Occurs covered name after ↔
      covered = g.parameterText name ∧ g.name? (name ++ g.closing ++ after) = some name := by
  rw [name?_eq_some_iff, List.append_assoc, takeWhile_append_eq_left_iff]
  cases g with
  | sigil m => simp [Occurs, parameterText, closing, closes, isNameChar, marker]
  | delimited m =>
    simp only [Occurs, parameterText, marker, closing, isNameChar_delimited]
    constructor
    · rintro ⟨hcovered, hne, hname⟩
      have hclass : ∀ c ∈ name, (delimited m).isNameChar c = true :=
        fun c hc => isNameChar_delimited.2 (hname c hc)
      refine ⟨hcovered, hne, ⟨hname, by simp [isNameChar]⟩, ?_⟩
      rw [List.dropWhile_append_of_pos hclass]
      simp [isNameChar, closes]
    · rintro ⟨hcovered, hne, ⟨hname, _⟩, _⟩
      exact ⟨hcovered, hne, hname⟩

theorem opensNothing_iff {after : List Char} : g.OpensNothing after ↔ g.name? after = none := by
  cases g with
  | sigil m => cases after <;> simp [OpensNothing, name?, closes, isNameChar, List.takeWhile_cons]
  | delimited m =>
    constructor
    · intro h
      cases hname : (delimited m).name? after with
      | none => rfl
      | some name =>
        obtain ⟨hne, hall, rest, hafter⟩ := name?_eq_some hname
        have hrun : ∀ c ∈ name, c ≠ m ∧ isBlank c = false :=
          fun c hc => isNameChar_delimited.1 (List.all_eq_true.1 hall c hc)
        exact absurd (h name rest (by simpa [closing] using hafter) hrun) hne
    · intro h run rest hafter hrun
      by_contra hne
      have hoccurs : (delimited m).Occurs (m :: run ++ [m]) run rest := ⟨rfl, hne, hrun⟩
      have hsome := (occurs_iff.1 hoccurs).2
      rw [show run ++ (delimited m).closing ++ rest = after by simp [closing, hafter], h] at hsome
      cases hsome

theorem Occurs.exists_marker {covered name after : List Char} (h : g.Occurs covered name after) :
    ∃ rest, covered = g.marker :: rest ∧ ¬ g.OpensNothing (rest ++ after) := by
  obtain ⟨hcovered, hname⟩ := occurs_iff.1 h
  refine ⟨name ++ g.closing, hcovered, ?_⟩
  rw [opensNothing_iff, hname]
  simp

/-- What occurs at the front of a text is determined by the text. -/
theorem Occurs.eq {covered name after covered' name' after' : List Char}
    (h : g.Occurs covered name after) (h' : g.Occurs covered' name' after')
    (htext : covered ++ after = covered' ++ after') : name = name' := by
  obtain ⟨rfl, hname⟩ := occurs_iff.1 h
  obtain ⟨rfl, hname'⟩ := occurs_iff.1 h'
  have hrest : name ++ g.closing ++ after = name' ++ g.closing ++ after' := by
    simpa [parameterText] using htext
  rw [hrest, hname'] at hname
  exact (Option.some.inj hname).symm

end Grammar

/-- The placeholders that a text asks for, with offsets counted from `start` at its front. -/
structure IsReading (g : Grammar) (start : Nat) (cs : List Char) (ps : List Placeholder) : Prop where
  ascending : ps.Pairwise fun p q => p.span.stop ≤ q.span.start
  occurs : ∀ p ∈ ps, ∃ before covered after, cs = before ++ covered ++ after ∧
    p.span = ⟨start + byteLength before, start + byteLength (before ++ covered)⟩ ∧
      g.Occurs covered p.name.toList after
  complete : ∀ before after, cs = before ++ g.marker :: after →
    (∀ p ∈ ps, start + byteLength before < p.span.start ∨ p.span.stop ≤ start + byteLength before) →
      g.OpensNothing after

namespace IsReading

variable {g : Grammar} {start : Nat} {cs : List Char} {ps : List Placeholder}

theorem start_le (h : IsReading g start cs ps) {p : Placeholder} (hp : p ∈ ps) :
    start ≤ p.span.start := by
  obtain ⟨before, covered, after, _, hspan, _⟩ := h.occurs p hp
  rw [hspan]
  exact Nat.le_add_right _ _

theorem start_lt_stop (h : IsReading g start cs ps) {p : Placeholder} (hp : p ∈ ps) :
    p.span.start < p.span.stop := by
  obtain ⟨before, covered, after, _, hspan, hoccurs⟩ := h.occurs p hp
  obtain ⟨rest, rfl, _⟩ := hoccurs.exists_marker
  have hpos := g.marker.utf8Size_pos
  simp only [hspan, Text.byteLength_append, Text.byteLength_cons]
  omega

theorem occurs_append {covered : List Char}
    (h : IsReading g (start + byteLength covered) cs ps) {p : Placeholder} (hp : p ∈ ps) :
    ∃ before text after, covered ++ cs = before ++ text ++ after ∧
      p.span = ⟨start + byteLength before, start + byteLength (before ++ text)⟩ ∧
        g.Occurs text p.name.toList after := by
  obtain ⟨before, text, after, rfl, hspan, hoccurs⟩ := h.occurs p hp
  refine ⟨covered ++ before, text, after, by simp, ?_, hoccurs⟩
  rw [hspan]
  simp [Nat.add_assoc]

theorem nil_iff : IsReading g start [] ps ↔ ps = [] := by
  constructor
  · intro h
    cases ps with
    | nil => rfl
    | cons p ps =>
      obtain ⟨before, covered, after, htext, _, hoccurs⟩ := h.occurs p (by simp)
      obtain ⟨rest, rfl, _⟩ := hoccurs.exists_marker
      simp at htext
  · rintro rfl
    exact ⟨.nil, by simp, by simp⟩

theorem cons_iff {c : Char} (hc : c = g.marker → g.OpensNothing cs) :
    IsReading g start (c :: cs) ps ↔ IsReading g (start + c.utf8Size) cs ps := by
  have hone : start + c.utf8Size = start + byteLength [c] := by simp
  constructor
  · intro h
    refine ⟨h.ascending, ?_, ?_⟩
    · intro p hp
      obtain ⟨before, covered, after, htext, hspan, hoccurs⟩ := h.occurs p hp
      cases before with
      | nil =>
        obtain ⟨rest, rfl, hopens⟩ := hoccurs.exists_marker
        simp only [List.nil_append, List.cons_append, List.cons.injEq] at htext
        obtain ⟨rfl, rfl⟩ := htext
        exact absurd (hc rfl) hopens
      | cons b before =>
        simp only [List.cons_append, List.cons.injEq] at htext
        obtain ⟨rfl, rfl⟩ := htext
        exact ⟨before, covered, after, rfl, by simp [hspan, Nat.add_assoc], hoccurs⟩
    · intro before after htext hout
      exact h.complete (c :: before) after (by simp [htext]) (by simpa [Nat.add_assoc] using hout)
  · intro h
    refine ⟨h.ascending, ?_, ?_⟩
    · intro p hp
      rw [hone] at h
      exact h.occurs_append hp
    · intro before after htext hout
      cases before with
      | nil =>
        simp only [List.nil_append, List.cons.injEq] at htext
        obtain ⟨rfl, rfl⟩ := htext
        exact hc rfl
      | cons b before =>
        simp only [List.cons_append, List.cons.injEq] at htext
        obtain ⟨rfl, rfl⟩ := htext
        exact h.complete before after rfl (by simpa [Nat.add_assoc] using hout)

/-- A parameter at the front of a text is covered: its marker would open something. -/
theorem exists_first {covered name after : List Char} (hoccurs : g.Occurs covered name after)
    (h : IsReading g start (covered ++ after) ps) :
    ⟨String.ofList name, start, start + byteLength covered⟩ ∈ ps := by
  obtain ⟨rest, hcovered, hopens⟩ := hoccurs.exists_marker
  obtain ⟨p, hp, hstart⟩ : ∃ p ∈ ps, p.span.start = start := by
    by_contra hnone
    refine hopens (h.complete [] (rest ++ after) (by simp [hcovered]) fun p hp => Or.inl ?_)
    have hle := h.start_le hp
    have hne : p.span.start ≠ start := fun heq => hnone ⟨p, hp, heq⟩
    simp only [Text.byteLength_nil]
    omega
  obtain ⟨before, covered', after', htext, hspan, hoccurs'⟩ := h.occurs p hp
  have hbefore : before = [] := by
    rw [hspan] at hstart
    exact Text.byteLength_eq_zero.1 (by simpa using hstart)
  subst hbefore
  have hname : name = p.name.toList := hoccurs.eq hoccurs' htext
  have heq : covered = covered' := by
    rw [(Grammar.occurs_iff.1 hoccurs).1, (Grammar.occurs_iff.1 hoccurs').1, hname]
  have hfirst : p = ⟨String.ofList name, start, start + byteLength covered⟩ := by
    obtain ⟨pname, pspan⟩ := p
    simp only at hspan hname
    rw [hspan, heq, hname, String.ofList_toList]
    rfl
  exact hfirst ▸ hp

theorem eq_cons_of_mem {p : Placeholder} (h : IsReading g start cs ps) (hp : p ∈ ps)
    (hstart : p.span.start = start) : ∃ qs, ps = p :: qs := by
  cases ps with
  | nil => cases hp
  | cons q qs =>
    rcases List.mem_cons.1 hp with rfl | hmem
    · exact ⟨qs, rfl⟩
    · have hle := (List.pairwise_cons.1 h.ascending).1 p hmem
      have hlt := h.start_lt_stop (p := q) (by simp)
      have hq := h.start_le (p := q) (by simp)
      omega

/-- A parameter at the front is the first placeholder, and the reading goes on behind its span. -/
theorem append_iff {covered name after : List Char} (hoccurs : g.Occurs covered name after) :
    IsReading g start (covered ++ after) ps ↔
      ∃ qs, ps = ⟨String.ofList name, start, start + byteLength covered⟩ :: qs ∧
        IsReading g (start + byteLength covered) after qs := by
  constructor
  · intro h
    obtain ⟨qs, rfl⟩ := h.eq_cons_of_mem (h.exists_first hoccurs) rfl
    obtain ⟨hfirst, hlater⟩ := List.pairwise_cons.1 h.ascending
    refine ⟨qs, rfl, hlater, ?_, ?_⟩
    · intro q hq
      obtain ⟨before, covered', after', htext, hspan, hoccurs'⟩ := h.occurs q (by simp [hq])
      have hle : byteLength covered ≤ byteLength before := by
        have hstop := hfirst q hq
        rw [hspan] at hstop
        simpa using hstop
      rw [List.append_assoc] at htext
      obtain ⟨between, rfl, rfl⟩ := Text.exists_append_of_byteLength_le htext hle
      exact ⟨between, covered', after', by simp, by simp [hspan, Nat.add_assoc], hoccurs'⟩
    · intro before after' htext hout
      refine h.complete (covered ++ before) after' (by simp [htext]) fun p hp => ?_
      rw [Text.byteLength_append, ← Nat.add_assoc]
      rcases List.mem_cons.1 hp with rfl | hp
      · exact Or.inr (Nat.le_add_right _ _)
      · exact hout p hp
  · rintro ⟨qs, rfl, h⟩
    refine ⟨List.pairwise_cons.2 ⟨fun q hq => h.start_le hq, h.ascending⟩, ?_, ?_⟩
    · intro p hp
      rcases List.mem_cons.1 hp with rfl | hp
      · exact ⟨[], covered, after, rfl, by simp, by simpa using hoccurs⟩
      · exact h.occurs_append hp
    · intro before after' htext hout
      -- A marker inside the first span is covered, so this one stands behind it.
      have hle : byteLength covered ≤ byteLength before := by
        rcases hout _ List.mem_cons_self with hlt | hle
        · exact absurd hlt (Nat.not_lt.2 (Nat.le_add_right _ _))
        · simpa using hle
      obtain ⟨between, rfl, rfl⟩ := Text.exists_append_of_byteLength_le htext hle
      refine h.complete between after' rfl fun q hq => ?_
      simpa [Nat.add_assoc] using hout q (List.mem_cons_of_mem _ hq)

end IsReading

namespace Template

theorem isReading_iff_eq_placeholdersFrom (g : Grammar) (start : Nat) (cs : List Char)
    (ps : List Placeholder) :
    IsReading g start cs ps ↔ ps = placeholdersFrom g start (g.scan cs) := by
  refine g.scan_induction (motive := fun cs pieces => ∀ start ps,
    IsReading g start cs ps ↔ ps = placeholdersFrom g start pieces) ?_ ?_ ?_ cs start ps
  · intro start ps
    exact IsReading.nil_iff
  · intro c cs hc ih start ps
    rw [IsReading.cons_iff fun heq => Grammar.opensNothing_iff.2 (hc heq), ih]
    rfl
  · intro name after hname ih start ps
    have hoccurs : g.Occurs (g.parameterText name) name after := Grammar.occurs_iff.2 ⟨rfl, hname⟩
    rw [IsReading.append_iff hoccurs]
    simp [ih, placeholdersFrom]

/-- The scan finds what the text asks for, and nothing else is a reading of the text. -/
theorem isReading_iff_eq_placeholders (g : Grammar) (query : String) (ps : List Placeholder) :
    IsReading g 0 query.toList ps ↔ ps = (parse g query).placeholders :=
  isReading_iff_eq_placeholdersFrom g 0 query.toList ps

example : (parse (.delimited ':') "x::é::b: :c").placeholders = [⟨"é", 2, 6⟩, ⟨"b", 6, 9⟩] := by
  decide +kernel

end Template
end BoundQuery
