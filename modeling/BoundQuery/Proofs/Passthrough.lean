import BoundQuery.Proofs.Compilation
import BoundQuery.Proofs.Rewriting

/-!
# Compiled queries sent by position

What a query compiles to can be written down as a query of its own, with the
same arguments bound by position. Where its literal text has no question mark,
the marks of that query are those of the parameters and no others, so it sends
and shows the same. The offsets of the marks are counted once along the pieces
and once along the finished text.
-/

namespace BoundQuery

open Text (outside?)

namespace Template

theorem forall_notMem_literalRuns_iff {c : Char} {pieces : List Piece} :
    (∀ run ∈ literalRuns pieces, c ∉ run) ↔ Piece.literal c ∉ pieces := by
  induction pieces with
  | nil => simp [literalRuns]
  | cons piece pieces ih =>
    cases piece with
    | literal d =>
      obtain ⟨first, later, hruns⟩ := List.exists_cons_of_ne_nil (literalRuns_ne_nil pieces)
      rw [hruns, List.forall_mem_cons] at ih
      rw [literalRuns, hruns, List.modifyHead_cons, List.forall_mem_cons, List.mem_cons, not_or,
        List.mem_cons, not_or, Piece.literal.injEq, and_assoc, ih]
    | parameter name =>
      rw [literalRuns, List.forall_mem_cons, ih]
      simp

theorem nativeSlotsFrom_spelling {pieces : List Piece} (hplain : Piece.literal '?' ∉ pieces)
    (start : Nat) :
    nativeSlotsFrom start (spelling (fun _ => ['?']) pieces) = slotsFrom start pieces := by
  have hone : '?'.utf8Size = 1 := rfl
  induction pieces generalizing start with
  | nil => rfl
  | cons piece pieces ih =>
    rw [List.mem_cons, not_or] at hplain
    obtain ⟨hpiece, hlater⟩ := hplain
    cases piece with
    | literal c =>
      have hc : c ≠ '?' := by
        rintro rfl
        exact hpiece rfl
      rw [spelling_literal, nativeSlotsFrom, if_neg hc, slotsFrom]
      exact ih hlater _
    | parameter name =>
      rw [spelling_parameter, List.singleton_append, nativeSlotsFrom, if_pos rfl, slotsFrom, hone]
      exact congrArg _ (ih hlater _)

/-- The slots of a rewritten query are all of its question marks, if the query has none outside its
placeholders. -/
theorem nativeSlots_positionalSql (t : Template) {texts : List (List Char)}
    (htexts : outside? 0 t.query.toList (t.placeholders.map Placeholder.span) = some texts)
    (hplain : ∀ text ∈ texts, '?' ∉ text) : nativeSlots t.positionalSql = t.slots := by
  rw [toList_query, map_span_placeholders, outside?_spelling, Option.some.injEq] at htexts
  rw [← htexts, forall_notMem_literalRuns_iff] at hplain
  rw [nativeSlots, toList_positionalSql, nativeSlotsFrom_spelling hplain, slots]

end Template

namespace Statement

variable {s : Statement} {c : CompiledStatement}

theorem compile_ofQuery_bindPositionalAll (g : Grammar) (sql : String) {args : List SqlValue}
    (hargs : args ≠ []) :
    ((ofQuery g sql).bindPositionalAll args).compile =
      .ok { sql := sql, args := args, slots := nativeSlots sql, source := sql, named := [] } := by
  have hvalues : args.map toSqlValue = args := List.map_id args
  obtain ⟨v, vs, rfl⟩ := List.exists_cons_of_ne_nil hargs
  simp [compile, positionalQuery, bindPositionalAll, hvalues, ofQuery, ofTemplate, query, Except.map]

theorem nativeSlots_of_compile_eq_ok (hc : s.compile = .ok c) {texts : List (List Char)}
    (htexts : outside? 0 s.query.toList (s.template.placeholders.map Placeholder.span) = some texts)
    (hplain : ∀ text ∈ texts, '?' ∉ text) : nativeSlots c.sql = c.slots := by
  have hq := positionalQuery_of_compile_eq_ok hc
  by_cases hpositional : s.positional = []
  · rw [positionalQuery_of_positional_eq_nil hpositional, Template.compile_ok_iff] at hq
    obtain ⟨_, _, hcompiled⟩ := hq
    rw [hcompiled]
    exact s.template.nativeSlots_positionalSql htexts hplain
  · obtain ⟨_, hcompiled⟩ := positionalQuery_of_positional_ne_nil hpositional hq
    rw [hcompiled]

/-- A compiled query whose literal text has no question mark can be sent as a query of its own,
read under any grammar, with its arguments bound by position: its marks are the compiled slots, and
it compiles and renders the same. -/
theorem compiled_passes_by_position (g : Grammar) (query : String) (named : Bindings)
    (positional : List SqlValue)
    (hc : (Statement.mk (.parse g query) named positional).compile = .ok c) (hargs : c.args ≠ [])
    {texts : List (List Char)}
    (htexts : outside? 0 query.toList
      ((Template.parse g query).placeholders.map Placeholder.span) = some texts)
    (hplain : ∀ text ∈ texts, '?' ∉ text) :
    nativeSlots c.sql = c.slots ∧
    ∀ g', ∃ c', ((ofQuery g' c.sql).bindPositionalAll c.args).compile = .ok c' ∧
      c'.sql = c.sql ∧ c'.args = c.args ∧ c'.rendered = c.rendered := by
  have hslots : nativeSlots c.sql = c.slots := by
    apply nativeSlots_of_compile_eq_ok hc _ hplain
    rwa [Statement.query, Template.query_parse]
  refine ⟨hslots, fun g' => ⟨_, compile_ofQuery_bindPositionalAll g' c.sql hargs, rfl, rfl, ?_⟩⟩
  rw [PositionalQuery.rendered, PositionalQuery.rendered, hslots]

/-- Every mark of the query is a marker or in a name, and two placeholders touch. -/
theorem compiled_passes_by_position_with_marks_as_markers :
    let query := "é?a??b? ?a?"
    let s : Statement := ⟨.parse (.delimited '?') query, [("b", .text "?"), ("a", .null)], []⟩
    ∃ c texts, s.compile = .ok c ∧ c.args ≠ [] ∧
      outside? 0 query.toList (s.template.placeholders.map Placeholder.span) = some texts ∧
      (∀ text ∈ texts, '?' ∉ text) ∧ c.sql = "é?? ?" ∧ nativeSlots c.sql = c.slots ∧
      ∀ g', ∃ c', ((ofQuery g' c.sql).bindPositionalAll c.args).compile = .ok c' ∧
        c'.sql = c.sql ∧ c'.args = c.args ∧ c'.rendered = c.rendered := by
  intro query s
  have hc : s.compile = .ok
      { sql := "é?? ?", args := [.null, .text "?", .null], slots := [2, 3, 5], source := query
        named := [("b", .text "?"), ("a", .null)] } := by
    decide +kernel
  have htexts : outside? 0 query.toList (s.template.placeholders.map Placeholder.span) =
      some [['é'], [], [' '], []] := by
    decide +kernel
  have hplain : ∀ text ∈ [['é'], [], [' '], []], '?' ∉ text := by decide
  exact ⟨_, _, hc, nofun, htexts, hplain, rfl,
    compiled_passes_by_position _ query _ _ hc nofun htexts hplain⟩

end Statement
end BoundQuery
