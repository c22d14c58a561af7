import BoundQuery.Proofs.Compilation
import BoundQuery.Proofs.Substitution
import BoundQuery.Rendering.Words
import BoundQuery.Statement.Draft
import BoundQuery.Text.Splice
import Mathlib.Data.List.Perm.Subperm

/-!
# What a rendering shows

The rendering of a compiled statement is its query with the placeholders' spans
replaced by the literals of their values, or with its own question marks
replaced in order. Neither what a literal contains nor its length moves any
other replacement, since all of them are said of the query as it was written.
-/

namespace BoundQuery

open Text (byteLength replaceSpans?)

theorem fits_of_lt {slots : List Nat} {args : List SqlValue} {size : Nat}
    (hascending : slots.Pairwise (· < ·)) (hinside : ∀ slot ∈ slots, slot < size)
    (hsize : size + literalBytes args < UInt64.size) : Fits (slots.map UInt64.ofNat) args := by
  constructor
  · intro word hword
    obtain ⟨slot, hslot, rfl⟩ := List.mem_map.1 hword
    have hlt := hinside slot hslot
    rw [UInt64.toNat_ofNat_of_lt' (by omega)]
    omega
  · have hsubset : slots ⊆ List.range size := fun slot hslot => List.mem_range.2 (hinside slot hslot)
    have hnodup : slots.Nodup := hascending.imp Nat.ne_of_lt
    have hcount := (hnodup.subperm hsubset).length_le
    rw [List.length_range] at hcount
    rw [List.length_map]
    omega

theorem renderWords?_of_lt {sql : String} {slots : List Nat} {args : List SqlValue}
    (hascending : slots.Pairwise (· < ·)) (hinside : ∀ slot ∈ slots, slot < byteLength sql.toList)
    (hsize : byteLength sql.toList + literalBytes args < UInt64.size) (o : Overflow) :
    renderWords? o sql (slots.map UInt64.ofNat) args = some (render sql slots args) := by
  have hsame : (slots.map UInt64.ofNat).map UInt64.toNat = slots := by
    rw [List.map_map]
    refine (List.map_congr_left fun slot hslot => ?_).trans slots.map_id
    have hlt := hinside slot hslot
    exact UInt64.toNat_ofNat_of_lt' (by omega)
  rw [renderWords?_of_fits (fits_of_lt hascending hinside hsize), hsame]

namespace Template

/-- The spans of some placeholders with the literals of some values, as replacements. -/
def edits (ps : List Placeholder) (values : List SqlValue) : List (Text.Span × List Char) :=
  List.zipWith (fun p v => (p.span, v.literal.toList)) ps values

theorem exists_mem_of_mem_edits {ps : List Placeholder} {values : List SqlValue}
    {e : Text.Span × List Char} (h : e ∈ edits ps values) : ∃ p ∈ ps, e.1 = p.span := by
  induction ps generalizing values with
  | nil => simp [edits] at h
  | cons p ps ih =>
    cases values with
    | nil => simp [edits] at h
    | cons v values =>
      rcases List.mem_cons.1 h with rfl | h
      · exact ⟨p, by simp, rfl⟩
      · obtain ⟨p', hp', heq⟩ := ih h
        exact ⟨p', by simp [hp'], heq⟩

/-- Filling the slots of the rewritten text gives what replacing the spans of the query gives. The
two texts are walked together, each with its own offset. -/
theorem replaceSpans?_edits_placeholdersFrom (g : Grammar) (start start' : Nat)
    (pieces : List Piece) (values : List SqlValue)
    (hlength : values.length = (pieces.filterMap Piece.name?).length) :
    replaceSpans? start (pieces.flatMap (Piece.text g))
        (edits (placeholdersFrom g start pieces) values) =
      some (fillMarks (fillingOf (slotsFrom start' pieces) values) start'
        (pieces.flatMap Piece.positional)) := by
  induction pieces generalizing start start' values with
  | nil =>
    rw [List.length_eq_zero_iff.1 hlength]
    rfl
  | cons piece pieces ih =>
    cases piece with
    | literal c =>
      have hfirst : ∀ e ∈ edits (placeholdersFrom g (start + c.utf8Size) pieces) values,
          start + c.utf8Size ≤ e.1.start := by
        intro e he
        obtain ⟨p, hp, heq⟩ := exists_mem_of_mem_edits he
        rw [heq]
        exact le_of_mem_placeholdersFrom hp
      have hkeep : fillingOf (slotsFrom (start' + c.utf8Size) pieces) values start' = none := by
        have hpos := c.utf8Size_pos
        apply fillingOf_eq_none
        intro hmem
        have hle := le_of_mem_slotsFrom hmem
        omega
      simp only [List.flatMap_cons, Piece.text, Piece.positional, List.cons_append,
        List.nil_append, placeholdersFrom, slotsFrom, fillMarks]
      rw [Text.replaceSpans?_cons hfirst, ih _ (start' + c.utf8Size) values (by simpa using hlength),
        hkeep]
      simp
    | parameter name =>
      cases values with
      | nil => simp at hlength
      | cons v values =>
        have hrest : fillMarks (fillingOf (start' :: slotsFrom (start' + 1) pieces) (v :: values))
            (start' + 1) (pieces.flatMap Piece.positional) =
              fillMarks (fillingOf (slotsFrom (start' + 1) pieces) values) (start' + 1)
                (pieces.flatMap Piece.positional) := by
          apply fillMarks_congr
          intro before _ _
          rw [fillingOf_cons, if_neg (by omega), List.tail_cons]
        have hone : '?'.utf8Size = 1 := rfl
        simp only [List.flatMap_cons, Piece.text, Piece.positional, List.cons_append,
          List.nil_append, placeholdersFrom, slotsFrom, fillMarks, edits, List.zipWith_cons_cons]
        rw [Text.replaceSpans?_append, ← edits, ih _ (start' + 1) values (by simpa using hlength),
          fillingOf_cons, if_pos rfl, hone, hrest]
        simp

theorem replaceSpans?_eq_rendered (t : Template) {bindings : Bindings} {q : PositionalQuery}
    (h : t.compile bindings = .ok q) :
    replaceSpans? 0 t.query.toList (edits t.placeholders q.args) = some q.rendered.toList := by
  have hlength := (t.forall₂_placeholders_args h).length_eq
  rw [← List.length_map, t.map_name_placeholders] at hlength
  obtain ⟨_, _, hq⟩ := (t.compile_ok_iff bindings q).1 h
  have hsql : q.sql = t.positionalSql := by rw [hq]
  have hslots : q.slots = slotsFrom 0 t.pieces := by rw [hq, slots]
  have hreplaced :=
    replaceSpans?_edits_placeholdersFrom t.grammar 0 0 t.pieces q.args hlength.symm
  rw [PositionalQuery.rendered, hsql, hslots, render_eq_fillMarks (pairwise_slotsFrom 0 t.pieces)]
  simpa [Template.query, placeholders, positionalSql, positionalText] using hreplaced

theorem rendered_of_compile_nil (t : Template) {q : PositionalQuery} (h : t.compile [] = .ok q) :
    q.rendered = t.query := by
  have hparameters : t.parameters = [] := by
    apply List.eq_nil_iff_forall_not_mem.2
    intro name hname
    have hnames := (t.no_mismatch_iff []).1 ⟨((t.compile_ok_iff [] q).1 h).1,
      ((t.compile_ok_iff [] q).1 h).2.1⟩
    obtain ⟨v, hv⟩ := (hnames name).2 (t.mentions_iff.2 hname)
    cases hv
  rw [t.compile_nil_of_no_parameters hparameters] at h
  rw [← Except.ok.inj h, PositionalQuery.rendered, render_no_slots]

theorem lt_of_mem_slotsFrom {start slot : Nat} {pieces : List Piece}
    (h : slot ∈ slotsFrom start pieces) :
    slot < start + byteLength (pieces.flatMap Piece.positional) := by
  induction pieces generalizing start with
  | nil => cases h
  | cons piece pieces ih =>
    cases piece with
    | literal c =>
      have hlt := ih h
      simp only [List.flatMap_cons, Piece.positional, Text.byteLength_append, Text.byteLength_cons,
        Text.byteLength_nil]
      omega
    | parameter name =>
      have hone : byteLength ['?'] = 1 := rfl
      simp only [List.flatMap_cons, Piece.positional, Text.byteLength_append, hone]
      rcases List.mem_cons.1 h with rfl | hmem
      · omega
      · have hlt := ih hmem
        omega

/-- A compiled query whose text and literals can be addressed is rendered alike with words. -/
theorem renderWords?_of_compile (t : Template) {bindings : Bindings} {q : PositionalQuery}
    (h : t.compile bindings = .ok q)
    (hsize : byteLength q.sql.toList + literalBytes q.args < UInt64.size) (o : Overflow) :
    renderWords? o q.sql (q.slots.map UInt64.ofNat) q.args = some q.rendered := by
  obtain ⟨_, _, rfl⟩ := (t.compile_ok_iff bindings q).1 h
  apply renderWords?_of_lt (pairwise_slotsFrom 0 t.pieces) _ hsize
  intro slot hslot
  have hlt := lt_of_mem_slotsFrom hslot
  rw [Nat.zero_add] at hlt
  simpa [positionalSql, positionalText] using hlt

end Template

namespace Draft

/-- After any calls on a statement of a query, the rendering of what it compiles to shows the query
with the last values bound to its placeholders, or with the positional values at its own marks. -/
theorem rendered_of_compile_run (g : Grammar) (query : String) (steps : List Step)
    {s : Statement} (hs : ((ofStatement (.ofQuery g query)).run steps).statement = s)
    {c : CompiledStatement} (hc : s.compile = .ok c) :
    (s.positional = [] → ∃ values,
      List.Forall₂ (fun p v => s.named.LastBound p.name v) (Template.parse g query).placeholders
        values ∧
      replaceSpans? 0 query.toList (Template.edits (Template.parse g query).placeholders values) =
        some c.rendered.toList) ∧
    (s.named = [] → s.positional = [] → c.rendered = query) ∧
    (s.positional ≠ [] →
      s.named = [] ∧ c.rendered = String.ofList (fillInOrder s.positional query.toList)) := by
  have htemplate : s.template = Template.parse g query := hs ▸ template_run _ steps
  have hq := Statement.positionalQuery_of_compile_eq_ok hc
  refine ⟨?_, ?_, ?_⟩
  · intro hpositional
    rw [Statement.positionalQuery_of_positional_eq_nil hpositional, htemplate] at hq
    have hreplaced := (Template.parse g query).replaceSpans?_eq_rendered hq
    rw [Template.query_parse] at hreplaced
    exact ⟨c.args, (Template.parse g query).forall₂_placeholders_args hq, hreplaced⟩
  · intro hnamed hpositional
    rw [Statement.positionalQuery_of_positional_eq_nil hpositional, htemplate, hnamed] at hq
    have hrendered := (Template.parse g query).rendered_of_compile_nil hq
    rwa [Template.query_parse] at hrendered
  · intro hpositional
    obtain ⟨hnamed, hcompiled⟩ := Statement.positionalQuery_of_positional_ne_nil hpositional hq
    have hquery : s.query = query := by rw [Statement.query, htemplate, Template.query_parse]
    refine ⟨hnamed, ?_⟩
    rw [hcompiled, PositionalQuery.rendered, render_nativeSlots, hquery]

/-- Question marks and markers in a literal take no part in the rendering. -/
theorem rendered_of_marks_in_literals :
    let query := "é§a§?§b§"
    let s := ((ofStatement (.ofQuery (.delimited '§') query)).run
      [.bindNamed "b" .null, .bindNamed "a" (.int8 1), .bindNamed "a" (.text "§?")]).statement
    ∃ c, s.compile = .ok c ∧ c.rendered = "é'§?'?NULL" ∧ ∃ values,
      List.Forall₂ (fun p v => s.named.LastBound p.name v)
        (Template.parse (.delimited '§') query).placeholders values ∧
      replaceSpans? 0 query.toList
        (Template.edits (Template.parse (.delimited '§') query).placeholders values) =
          some c.rendered.toList := by
  intro query s
  have hc : s.compile = .ok
      { sql := "é???", args := [.text "§?", .null], slots := [2, 4], source := query
        named := [("b", .null), ("a", .int8 1), ("a", .text "§?")] } := by
    decide +kernel
  refine ⟨_, hc, by decide +kernel, ?_⟩
  exact (rendered_of_compile_run _ _ _ rfl hc).1 rfl

end Draft
end BoundQuery
