import BoundQuery.Template.Basic

/-!
# Queries put together from fragments

Where white space stands at the seam of two texts, no parameter reaches from one
into the other: a name holds no white space, and a marker is none. So the whole
is read as one fragment after the other, with the offsets of the second counted
on from the end of the first.
-/

namespace BoundQuery

open Text (byteLength isBlank)

namespace Grammar

variable {g : Grammar} {cs run rest before after : List Char}

theorem isNameChar_of_isBlank {c : Char} (h : isBlank c = true) : g.isNameChar c = false := by
  cases g <;> simp [isNameChar, h]

/-- What a marker opens is decided by the run of name characters behind it and what ends that run. -/
theorem name?_run_append (hrun : ∀ c ∈ run, g.isNameChar c = true)
    (hrest : ∀ c ∈ rest.head?, g.isNameChar c = false) :
    g.name? (run ++ rest) = if run ≠ [] ∧ g.closes rest = true then some run else none := by
  have htake : (run ++ rest).takeWhile g.isNameChar = run :=
    takeWhile_append_eq_left_iff.2 ⟨hrun, hrest⟩
  have hdrop : (run ++ rest).dropWhile g.isNameChar = rest := by
    have hwhole := List.takeWhile_append_dropWhile (p := g.isNameChar) (l := run ++ rest)
    rw [htake] at hwhole
    exact List.append_cancel_left hwhole
  simp only [name?, htake, hdrop]

theorem exists_run (g : Grammar) (cs : List Char) :
    ∃ run rest, cs = run ++ rest ∧ (∀ c ∈ run, g.isNameChar c = true) ∧
      ∀ c ∈ rest.head?, g.isNameChar c = false := by
  have hsplit : cs.takeWhile g.isNameChar ++ cs.dropWhile g.isNameChar = cs :=
    List.takeWhile_append_dropWhile
  have htake : (cs.takeWhile g.isNameChar ++ cs.dropWhile g.isNameChar).takeWhile g.isNameChar =
      cs.takeWhile g.isNameChar := by rw [hsplit]
  obtain ⟨hrun, hrest⟩ := takeWhile_append_eq_left_iff.1 htake
  exact ⟨_, _, hsplit.symm, hrun, hrest⟩

theorem closes_of_isBlank_head (hmarker : isBlank g.marker = false)
    (hblank : ∃ c ∈ rest.head?, isBlank c = true) : g.closes rest = g.closes [] := by
  cases g with
  | sigil m => rfl
  | delimited m =>
    obtain ⟨c, hc, hcblank⟩ := hblank
    have hne : c ≠ m := by
      rintro rfl
      cases hmarker.symm.trans hcblank
    rw [Option.mem_def] at hc
    simp [closes, hc, hne]

/-- Nothing behind a white space takes part in a name before it. -/
theorem name?_append (hmarker : isBlank g.marker = false)
    (h : (∃ c ∈ cs, isBlank c = true) ∨ ∃ c ∈ after.head?, isBlank c = true) :
    g.name? (cs ++ after) = g.name? cs := by
  obtain ⟨run, rest, rfl, hrun, hrest⟩ := g.exists_run cs
  have hend : (∀ c ∈ (rest ++ after).head?, g.isNameChar c = false) ∧
      g.closes (rest ++ after) = g.closes rest := by
    cases rest with
    | cons c rest => exact ⟨hrest, by cases g <;> rfl⟩
    | nil =>
      -- The run goes up to the seam, so the white space is behind it.
      have hblank : ∃ c ∈ after.head?, isBlank c = true := by
        refine h.resolve_left ?_
        rintro ⟨c, hc, hcblank⟩
        rw [List.append_nil] at hc
        cases (hrun c hc).symm.trans (isNameChar_of_isBlank hcblank)
      refine ⟨?_, closes_of_isBlank_head hmarker hblank⟩
      obtain ⟨c, hc, hcblank⟩ := hblank
      intro d hd
      cases Option.mem_unique hc hd
      exact isNameChar_of_isBlank hcblank
  rw [List.append_assoc, name?_run_append hrun hend.1, name?_run_append hrun hrest, hend.2]

/-- Whether a text can follow another with no parameter across: the first one ends in white space or
is empty, or the second one begins with white space. -/
def Apart (before after : List Char) : Prop :=
  (∀ c ∈ before.getLast?, isBlank c = true) ∨ ∃ c ∈ after.head?, isBlank c = true

theorem Apart.of_append (h : Apart (before ++ cs) after) : Apart cs after := by
  refine h.imp_left fun hlast c hc => hlast c ?_
  rw [Option.mem_def] at hc ⊢
  rw [List.getLast?_append, hc, Option.some_or]

/-- Behind a marker in the first of two such texts there is white space before the second one
begins, or at its begin. -/
theorem Apart.exists_isBlank (hmarker : isBlank g.marker = false)
    (h : Apart (g.marker :: cs) after) :
    (∃ c ∈ cs, isBlank c = true) ∨ ∃ c ∈ after.head?, isBlank c = true := by
  refine h.imp_left fun hlast => ?_
  cases hcs : cs.getLast? with
  | some c => exact ⟨c, List.mem_of_getLast? hcs, hlast c (by simp [List.getLast?_cons, hcs])⟩
  | none => cases hmarker.symm.trans (hlast g.marker (by simp [List.getLast?_cons, hcs]))

/-- Two texts with white space at the seam are read one after the other. -/
theorem scan_append (hmarker : isBlank g.marker = false) (hapart : Apart before after) :
    g.scan (before ++ after) = g.scan before ++ g.scan after := by
  revert hapart
  refine g.scan_induction (motive := fun before pieces =>
    Apart before after → g.scan (before ++ after) = pieces ++ g.scan after) ?_ ?_ ?_ before
  · intro _
    rfl
  · intro c cs hc ih hapart
    have hcons : Apart ([c] ++ cs) after := hapart
    have hrest := ih hcons.of_append
    by_cases hc' : c = g.marker
    · subst hc'
      have hnone : g.name? (cs ++ after) = none := by
        rw [name?_append hmarker (hapart.exists_isBlank hmarker)]
        exact hc rfl
      rw [List.cons_append, g.scan_marker_of_none hnone, hrest, List.cons_append]
    · rw [List.cons_append, g.scan_cons_of_ne hc', hrest, List.cons_append]
  · intro name later hname ih hapart
    have hrest := ih hapart.of_append
    have hwhole : g.name? (name ++ g.closing ++ (later ++ after)) = some name := by
      rw [← List.append_assoc, name?_append hmarker, hname]
      apply Apart.exists_isBlank hmarker
      simpa [parameterText] using hapart
    rw [List.append_assoc, g.scan_parameterText hwhole, hrest, List.cons_append]

end Grammar

/-- The same occurrence with `n` more bytes of text before it. -/
def Placeholder.movedBy (p : Placeholder) (n : Nat) : Placeholder :=
  ⟨p.name, p.span.start + n, p.span.stop + n⟩

namespace Template

theorem placeholdersFrom_append (g : Grammar) (start : Nat) (pieces later : List Piece) :
    placeholdersFrom g start (pieces ++ later) = placeholdersFrom g start pieces ++
      placeholdersFrom g (start + byteLength (pieces.flatMap (Piece.text g))) later := by
  induction pieces generalizing start with
  | nil => simp [placeholdersFrom]
  | cons piece pieces ih =>
    cases piece with
    | literal c => simp [placeholdersFrom, ih, Piece.text, Nat.add_assoc]
    | parameter name => simp [placeholdersFrom, ih, Piece.text, Nat.add_assoc]

theorem placeholdersFrom_add (g : Grammar) (start n : Nat) (pieces : List Piece) :
    placeholdersFrom g (start + n) pieces = (placeholdersFrom g start pieces).map (·.movedBy n) := by
  induction pieces generalizing start with
  | nil => rfl
  | cons piece pieces ih =>
    cases piece with
    | literal c =>
      rw [placeholdersFrom, Nat.add_right_comm, ih]
      rfl
    | parameter name =>
      rw [placeholdersFrom, Nat.add_right_comm, ih]
      rfl

theorem slotsFrom_append (start : Nat) (pieces later : List Piece) :
    slotsFrom start (pieces ++ later) = slotsFrom start pieces ++
      slotsFrom (start + byteLength (pieces.flatMap Piece.positional)) later := by
  have hone : '?'.utf8Size = 1 := rfl
  induction pieces generalizing start with
  | nil => simp [slotsFrom]
  | cons piece pieces ih =>
    cases piece with
    | literal c => simp [slotsFrom, ih, Piece.positional, Nat.add_assoc]
    | parameter name => simp [slotsFrom, ih, Piece.positional, hone, Nat.add_assoc]

theorem slotsFrom_add (start n : Nat) (pieces : List Piece) :
    slotsFrom (start + n) pieces = (slotsFrom start pieces).map (· + n) := by
  induction pieces generalizing start with
  | nil => rfl
  | cons piece pieces ih =>
    cases piece with
    | literal c => rw [slotsFrom, Nat.add_right_comm, ih, slotsFrom]
    | parameter name => rw [slotsFrom, Nat.add_right_comm, ih, slotsFrom, List.map_cons]

/-- Fragments with white space at their seam are read apart under any marker that is none: the whole
has the placeholders of the first and then those of the second, moved by the bytes of the first, and
is rewritten to the two rewritten fragments, with the slots moved likewise. -/
theorem fragments_read_apart (g : Grammar) (hmarker : isBlank g.marker = false) (p q : String)
    (hseam : (∃ c ∈ p.toList.getLast?, isBlank c = true) ∨
      ∃ c ∈ q.toList.head?, isBlank c = true) :
    (parse g (p ++ q)).placeholders = (parse g p).placeholders ++
      (parse g q).placeholders.map (·.movedBy (byteLength p.toList)) ∧
    (parse g (p ++ q)).positionalSql = (parse g p).positionalSql ++ (parse g q).positionalSql ∧
    (parse g (p ++ q)).slots = (parse g p).slots ++
      (parse g q).slots.map (· + byteLength (parse g p).positionalSql.toList) := by
  have hapart : Grammar.Apart p.toList q.toList := by
    refine hseam.imp_left ?_
    rintro ⟨c, hc, hblank⟩ d hd
    cases Option.mem_unique hc hd
    exact hblank
  have hpieces : (parse g (p ++ q)).pieces = (parse g p).pieces ++ (parse g q).pieces := by
    rw [parse, String.toList_append]
    exact Grammar.scan_append hmarker hapart
  have htext : byteLength ((parse g p).pieces.flatMap (Piece.text g)) = byteLength p.toList :=
    congrArg byteLength (g.flatMap_text_scan p.toList)
  refine ⟨?_, ?_, ?_⟩
  · rw [placeholders, hpieces, grammar_parse, placeholdersFrom_append, htext, placeholdersFrom_add]
    rfl
  · rw [← String.toList_inj, String.toList_append]
    simp only [positionalSql, positionalText, String.toList_ofList, hpieces, List.flatMap_append]
  · rw [slots, hpieces, slotsFrom_append, slotsFrom_add, positionalSql, String.toList_ofList]
    rfl

/-- The first fragment ends in an opener without an end, the second could close it. -/
theorem fragments_read_apart_of_open_marker :
    let g := Grammar.delimited 'é'
    let p := "éaé ééb"
    let q := "\u3000cédé"
    isBlank g.marker = false ∧
    ((∃ c ∈ p.toList.getLast?, isBlank c = true) ∨ ∃ c ∈ q.toList.head?, isBlank c = true) ∧
    (parse g p).placeholders = [⟨"a", 0, 5⟩] ∧ (parse g q).placeholders = [⟨"d", 4, 9⟩] ∧
    (parse g (p ++ q)).placeholders = [⟨"a", 0, 5⟩, ⟨"d", 15, 20⟩] ∧
    (parse g (p ++ q)).slots = [0, 11] := by
  intro g p q
  have hmarker : isBlank g.marker = false := by decide
  have hseam : (∃ c ∈ p.toList.getLast?, isBlank c = true) ∨
      ∃ c ∈ q.toList.head?, isBlank c = true := Or.inr ⟨'\u3000', by decide +kernel, by decide +kernel⟩
  have hp : (parse g p).placeholders = [⟨"a", 0, 5⟩] := by decide +kernel
  have hq : (parse g q).placeholders = [⟨"d", 4, 9⟩] := by decide +kernel
  have hsql : byteLength (parse g p).positionalSql.toList = 7 := by decide +kernel
  have hslots : (parse g p).slots = [0] ∧ (parse g q).slots = [4] := by decide +kernel
  have hlength : byteLength p.toList = 11 := by decide +kernel
  obtain ⟨hplaceholders, _, hwhole⟩ := fragments_read_apart g hmarker p q hseam
  rw [hp, hq, hlength] at hplaceholders
  rw [hslots.1, hslots.2, hsql] at hwhole
  exact ⟨hmarker, hseam, hp, hq, hplaceholders, hwhole⟩

end Template
end BoundQuery
