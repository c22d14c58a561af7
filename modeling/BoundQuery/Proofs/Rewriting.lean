import BoundQuery.Proofs.Spelling

/-!
# What rewriting keeps

The text that is sent differs from the query in the spans of the placeholders
and nowhere else: each of them has become a question mark, and what lies outside
is the same on both sides. The slots count bytes in the new text and the spans
in the old one, so with both at hand the rewriting can be taken back.
-/

namespace BoundQuery

open Text (byteLength outside? replaceSpans? Span)

namespace Template

variable (t : Template)

/-- Span by span, the literal characters since the last parameter are kept when the next parameter
or the end is reached. -/
theorem rewriteFrom?_placeholdersFrom (g : Grammar) (before run sql : List Char) (slots : List Nat)
    (pieces : List Piece) :
    rewriteFrom? (before ++ run ++ pieces.flatMap (Piece.text g)) (byteLength before) sql slots
        (placeholdersFrom g (byteLength (before ++ run)) pieces) =
      some (sql ++ run ++ pieces.flatMap Piece.positional,
        slots ++ slotsFrom (byteLength (sql ++ run)) pieces) := by
  induction pieces generalizing before run sql slots with
  | nil =>
    have hslice := Span.slice?_append before run []
    rw [List.append_nil] at hslice
    simp only [List.flatMap_nil, List.append_nil, placeholdersFrom, slotsFrom, rewriteFrom?, hslice]
    rfl
  | cons piece pieces ih =>
    cases piece with
    | literal c =>
      have hkept := ih before (run ++ [c]) sql slots
      simpa [placeholdersFrom, slotsFrom, Piece.text, Piece.positional, Nat.add_assoc] using hkept
    | parameter name =>
      have hslice := Span.slice?_append before run
        (g.parameterText name.toList ++ pieces.flatMap (Piece.text g))
      have hrest := ih (before ++ run ++ g.parameterText name.toList) [] (sql ++ run ++ ['?'])
        (slots ++ [byteLength (sql ++ run)])
      have hone : byteLength ['?'] = 1 := rfl
      simp only [List.append_nil, Text.byteLength_append, List.append_assoc, hone, List.cons_append,
        List.nil_append] at hslice hrest
      simp [placeholdersFrom, slotsFrom, rewriteFrom?, Piece.text, Piece.positional, hslice, hrest,
        Nat.add_assoc]

/-- Rewriting a query by the spans of its placeholders makes the text and the slots of its
template. -/
theorem rewrite?_parse (g : Grammar) (query : String) :
    rewrite? query (parse g query).placeholders =
      some ((parse g query).positionalSql, (parse g query).slots) := by
  have hrewritten := rewriteFrom?_placeholdersFrom g [] [] [] [] (g.scan query.toList)
  simp only [List.nil_append, Text.byteLength_nil, g.flatMap_text_scan] at hrewritten
  have hfrom : rewriteFrom? query.toList 0 [] [] (parse g query).placeholders =
      some ((parse g query).positionalText, (parse g query).slots) := hrewritten
  rw [rewrite?, hfrom]
  rfl

/-- The spans, in the text that is sent, of the question marks for parameters. -/
def marks : List Span := t.slots.map fun slot => ⟨slot, slot + 1⟩

def written (name : String) : List Char := t.grammar.parameterText name.toList

theorem toList_query : t.query.toList = spelling t.written t.pieces := by
  rw [query, String.toList_ofList, flatMap_text]
  rfl

theorem toList_positionalSql : t.positionalSql.toList = spelling (fun _ => ['?']) t.pieces := by
  rw [positionalSql, String.toList_ofList, positionalText, flatMap_positional_eq_spelling]

theorem map_span_placeholders :
    t.placeholders.map Placeholder.span = spansFrom t.written 0 t.pieces :=
  map_span_placeholdersFrom t.grammar 0 t.pieces

theorem marks_eq_spansFrom : t.marks = spansFrom (fun _ => ['?']) 0 t.pieces :=
  map_mark_slotsFrom 0 t.pieces

theorem exists_mark_at_slot {slot : Nat} (h : slot ∈ t.slots) :
    ∃ before after, t.positionalSql.toList = before ++ '?' :: after ∧ byteLength before = slot := by
  have hmark : Span.mk slot (slot + 1) ∈ spansFrom (fun _ => ['?']) 0 t.pieces := by
    rw [← marks_eq_spansFrom]
    exact List.mem_map_of_mem h
  obtain ⟨_, before, after, htext, hspan⟩ := exists_of_mem_spansFrom (fun _ => ['?']) hmark
  refine ⟨before, after, ?_, ?_⟩
  · rw [toList_positionalSql, htext]
    simp
  · simpa using (congrArg Span.start hspan).symm

theorem forall₂_slice?_placeholders :
    List.Forall₂ (fun p covered => p.span.slice? t.query.toList = some covered) t.placeholders
      (t.parameters.map t.written) := by
  rw [List.forall₂_map_right_iff]
  have hspans := forall₂_spansFrom t.written 0 t.pieces
  rw [← map_span_placeholders, List.forall₂_map_left_iff] at hspans
  refine hspans.imp ?_
  rintro p name ⟨before, after, htext, hspan⟩
  rw [toList_query, htext, hspan, Nat.zero_add, Nat.zero_add]
  exact Span.slice?_append before (t.written name) after

theorem sum_length_marks : (t.marks.map Span.length).sum = t.total := by
  have hone : t.marks.map Span.length = t.slots.map fun _ => 1 := by
    rw [marks, List.map_map]
    apply List.map_congr_left
    intro slot _
    exact Nat.add_sub_cancel_left slot 1
  rw [hone, ← t.length_slots]
  simp

theorem byteLength_positionalSql_add :
    byteLength t.positionalSql.toList + (t.placeholders.map fun p => p.span.length).sum =
      byteLength t.query.toList + t.total := by
  have hlengths : (t.placeholders.map fun p => p.span.length) =
      (spansFrom t.written 0 t.pieces).map Span.length := by
    rw [← map_span_placeholders, List.map_map]
    rfl
  rw [hlengths, ← sum_length_marks, marks_eq_spansFrom, toList_positionalSql, toList_query]
  exact byteLength_spelling_add t.written (fun _ => ['?']) 0 0 t.pieces

/-- The placeholders' question marks, given the texts of their spans back, are the query again. -/
theorem replaceSpans?_marks :
    replaceSpans? 0 t.positionalSql.toList (t.marks.zip (t.parameters.map t.written)) =
      some t.query.toList := by
  rw [marks_eq_spansFrom, toList_positionalSql, toList_query]
  exact replaceSpans?_spelling (fun _ => ['?']) t.written 0 t.pieces

/-- Rewriting puts a question mark at each slot in place of each placeholder's span, leaves all
else byte for byte as it was, and is undone by putting the covered texts back. -/
theorem rewriting_reversible (g : Grammar) (query : String) :
    let t := parse g query
    let sql := t.positionalSql.toList
    t.slots.length = t.total ∧ t.total = t.placeholders.length ∧ t.slots.Pairwise (· < ·) ∧
    (∀ slot ∈ t.slots, ∃ before after, sql = before ++ '?' :: after ∧ byteLength before = slot) ∧
    byteLength sql + (t.placeholders.map fun p => p.span.length).sum =
      byteLength query.toList + t.total ∧
    (∃ texts, outside? 0 query.toList (t.placeholders.map Placeholder.span) = some texts ∧
      outside? 0 sql t.marks = some texts) ∧
    ∃ covered,
      List.Forall₂ (fun p text => p.span.slice? query.toList = some text) t.placeholders covered ∧
        replaceSpans? 0 sql (t.marks.zip covered) = some query.toList := by
  intro t sql
  have hquery : t.query = query := query_parse g query
  refine ⟨t.length_slots, ?_, pairwise_slotsFrom 0 t.pieces, fun slot => t.exists_mark_at_slot,
    ?_, ?_, ?_⟩
  · rw [total, ← t.map_name_placeholders, List.length_map]
  · rw [← hquery]
    exact t.byteLength_positionalSql_add
  · refine ⟨literalRuns t.pieces, ?_, ?_⟩
    · rw [← hquery, toList_query, map_span_placeholders]
      exact outside?_spelling t.written 0 t.pieces
    · rw [marks_eq_spansFrom]
      simp only [sql, toList_positionalSql]
      exact outside?_spelling (fun _ => ['?']) 0 t.pieces
  · rw [← hquery]
    exact ⟨t.parameters.map t.written, t.forall₂_slice?_placeholders, t.replaceSpans?_marks⟩

end Template
end BoundQuery
