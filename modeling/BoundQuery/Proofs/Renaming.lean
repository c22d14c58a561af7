import BoundQuery.Proofs.Compilation
import BoundQuery.Proofs.Placeholders
import BoundQuery.Proofs.Rewriting
import Mathlib.Data.Set.Function

/-!
# Names do not matter

A query whose parameters get other names, in the text and in the bindings alike,
is read as the same pieces with those names. What is sent for it is the same,
and it compiles with the same arguments or not at all. The names may have any
length and sort in any order; they only have to stay apart and to be names.
-/

namespace BoundQuery

open Text (isBlank replaceSpans?)

namespace Grammar

/-- Whether a parameter can be written with this name. -/
def IsName : Grammar → String → Prop
  | .sigil _, name => name ≠ "" ∧ ∀ c ∈ name.toList, isBlank c = false
  | .delimited m, name => name ≠ "" ∧ ∀ c ∈ name.toList, c ≠ m ∧ isBlank c = false

/-- How a query under this grammar writes its parameters when `r` names them anew. -/
def writtenAs (g : Grammar) (r : String → String) (name : String) : List Char :=
  g.parameterText (r name).toList

variable {g : Grammar} {r s : String → String} {pieces : List Piece}

theorem spelling_writtenAs_id_scan (cs : List Char) :
    Template.spelling (g.writtenAs id) (g.scan cs) = cs := g.flatMap_text_scan cs

theorem head?_spelling_writtenAs (g : Grammar) (r s : String → String) (pieces : List Piece) :
    (Template.spelling (g.writtenAs r) pieces).head? =
      (Template.spelling (g.writtenAs s) pieces).head? := by
  cases pieces with
  | nil => rfl
  | cons piece pieces => cases piece <;> rfl

theorem exists_run_spelling_writtenAs {run rest : List Char}
    (h : Template.spelling (g.writtenAs r) pieces = run ++ g.marker :: rest)
    (hrun : g.marker ∉ run) :
    ∃ rest', Template.spelling (g.writtenAs s) pieces = run ++ g.marker :: rest' := by
  induction pieces generalizing run with
  | nil => simp at h
  | cons piece pieces ih =>
    cases piece with
    | literal c =>
      cases run with
      | nil =>
        obtain ⟨rfl, _⟩ := List.cons.inj h
        exact ⟨_, rfl⟩
      | cons d run =>
        obtain ⟨rfl, hlater⟩ := List.cons.inj h
        obtain ⟨rest', hrest'⟩ := ih hlater fun hmem => hrun (List.mem_cons_of_mem _ hmem)
        exact ⟨rest', congrArg (c :: ·) hrest'⟩
    | parameter name =>
      cases run with
      | nil => exact ⟨_, rfl⟩
      | cons d run =>
        obtain ⟨rfl, _⟩ := List.cons.inj h
        exact absurd List.mem_cons_self hrun

/-- A marker that opens nothing still opens nothing when the parameters behind it are renamed. -/
theorem OpensNothing.renamed (h : g.OpensNothing (Template.spelling (g.writtenAs r) pieces)) :
    g.OpensNothing (Template.spelling (g.writtenAs s) pieces) := by
  cases g with
  | sigil m =>
    intro c hc
    rw [head?_spelling_writtenAs _ s r] at hc
    exact h c hc
  | delimited m =>
    intro run rest hafter hrun
    have hmarker : (delimited m).marker ∉ run := fun hmem => (hrun _ hmem).1 rfl
    obtain ⟨rest', hrest'⟩ := exists_run_spelling_writtenAs hafter hmarker
    exact h run rest' hrest' hrun

theorem Occurs.renamed {covered name : List Char} {newName : String}
    (h : g.Occurs covered name (Template.spelling (g.writtenAs r) pieces))
    (hname : g.IsName newName) :
    g.Occurs (g.parameterText newName.toList) newName.toList
      (Template.spelling (g.writtenAs s) pieces) := by
  cases g with
  | sigil m =>
    obtain ⟨hne, hblank⟩ := hname
    obtain ⟨_, _, _, hafter⟩ := h
    rw [head?_spelling_writtenAs _ r s] at hafter
    exact ⟨by simp [parameterText, marker, closing], by simpa using hne, hblank, hafter⟩
  | delimited m =>
    obtain ⟨hne, hchars⟩ := hname
    exact ⟨rfl, by simpa using hne, hchars⟩

end Grammar

namespace Piece

def renamed (r : String → String) : Piece → Piece
  | .literal c => .literal c
  | .parameter name => .parameter (r name)

end Piece

namespace Grammar

variable {g : Grammar} {r : String → String}

/-- A renamed query is read as the pieces of the query with the parameters renamed. -/
theorem scan_renamed {cs : List Char}
    (hnames : ∀ name ∈ (g.scan cs).filterMap Piece.name?, g.IsName (r name)) :
    g.scan (Template.spelling (g.writtenAs r) (g.scan cs)) = (g.scan cs).map (Piece.renamed r) := by
  revert hnames
  refine g.scan_induction (motive := fun cs pieces =>
    (∀ name ∈ pieces.filterMap Piece.name?, g.IsName (r name)) →
      g.scan (Template.spelling (g.writtenAs r) pieces) = pieces.map (Piece.renamed r)) ?_ ?_ ?_ cs
  · intro _
    rfl
  · intro c cs hc ih hnames
    have hrest := ih hnames
    rw [Template.spelling_literal, List.map_cons]
    by_cases hmarker : c = g.marker
    · have hopens : g.OpensNothing (Template.spelling (g.writtenAs r) (g.scan cs)) := by
        -- The text behind this marker changes, but only from the next marker on.
        apply OpensNothing.renamed (r := id)
        rw [spelling_writtenAs_id_scan]
        exact opensNothing_iff.2 (hc hmarker)
      rw [hmarker, g.scan_marker_of_none (opensNothing_iff.1 hopens), hrest]
      rfl
    · rw [g.scan_cons_of_ne hmarker, hrest]
      rfl
  · intro name after hname ih hnames
    rw [Piece.filterMap_name?_parameter, List.forall_mem_cons] at hnames
    have hoccurs : g.Occurs (g.parameterText name) name
        (Template.spelling (g.writtenAs id) (g.scan after)) := by
      rw [spelling_writtenAs_id_scan]
      exact occurs_iff.2 ⟨rfl, hname⟩
    have hrenamed := (occurs_iff.1 (hoccurs.renamed (s := r) hnames.1)).2
    rw [Template.spelling_parameter, writtenAs, g.scan_parameterText hrenamed, ih hnames.2,
      String.ofList_toList]
    rfl

end Grammar

namespace Template

def renamed (t : Template) (r : String → String) : Template :=
  ⟨t.grammar, t.pieces.map (Piece.renamed r)⟩

variable (t : Template) (r : String → String)

theorem spelling_map_renamed (f : String → List Char) (pieces : List Piece) :
    spelling f (pieces.map (Piece.renamed r)) = spelling (f ∘ r) pieces := by
  rw [spelling, List.flatMap_map]
  unfold spelling
  congr
  funext piece
  cases piece <;> rfl

theorem parameters_renamed : (t.renamed r).parameters = t.parameters.map r := by
  unfold parameters renamed
  induction t.pieces with
  | nil => rfl
  | cons piece pieces ih => cases piece <;> simp [Piece.renamed, ih]

theorem toList_query_renamed :
    (t.renamed r).query.toList = spelling (t.grammar.writtenAs r) t.pieces := by
  rw [toList_query, renamed, spelling_map_renamed]
  rfl

theorem positionalSql_renamed : (t.renamed r).positionalSql = t.positionalSql := by
  rw [← String.toList_inj, toList_positionalSql, toList_positionalSql, renamed,
    spelling_map_renamed]
  rfl

theorem slots_renamed : (t.renamed r).slots = t.slots := by
  have hfrom : ∀ start, slotsFrom start (t.pieces.map (Piece.renamed r)) =
      slotsFrom start t.pieces := by
    induction t.pieces with
    | nil => exact fun _ => rfl
    | cons piece pieces ih => cases piece <;> simp [Piece.renamed, slotsFrom, ih]
  exact hfrom 0

theorem mentions_renamed : {name | (t.renamed r).Mentions name} = r '' {name | t.Mentions name} := by
  ext name
  simp [mentions_iff, parameters_renamed]

/-- A query with new names in its placeholders is read as the template with those names. -/
theorem parse_query_renamed {g : Grammar} {query : String}
    (hnames : ∀ name, (parse g query).Mentions name → g.IsName (r name)) :
    parse g ((parse g query).renamed r).query = (parse g query).renamed r := by
  have hscan : ∀ name ∈ (g.scan query.toList).filterMap Piece.name?, g.IsName (r name) :=
    fun name hname => hnames name ((parse g query).mentions_iff.2 hname)
  rw [parse, toList_query_renamed]
  exact congrArg (Template.mk g) (Grammar.scan_renamed hscan)

theorem replaceSpans?_renamed :
    replaceSpans? 0 t.query.toList
        (t.placeholders.map fun p => (p.span, t.grammar.writtenAs r p.name)) =
      some (t.renamed r).query.toList := by
  have hedits : (t.placeholders.map fun p => (p.span, t.grammar.writtenAs r p.name)) =
      (spansFrom t.written 0 t.pieces).zip (t.parameters.map (t.grammar.writtenAs r)) := by
    rw [← map_span_placeholders, ← map_name_placeholders, List.map_map, List.zip_map']
    rfl
  rw [hedits, toList_query, toList_query_renamed]
  exact replaceSpans?_spelling t.written (t.grammar.writtenAs r) 0 t.pieces

end Template

namespace Bindings

def renamed (bindings : Bindings) (r : String → String) : Bindings :=
  bindings.map fun b => (r b.1, b.2)

variable {bindings : Bindings} {r : String → String} {name : String}

theorem bound_renamed :
    {name | (bindings.renamed r).Bound name} = r '' {name | bindings.Bound name} := by
  ext name
  simp only [Bound, renamed, List.mem_map, Prod.mk.injEq, Set.mem_ofPred_eq, Set.mem_image]
  constructor
  · rintro ⟨v, ⟨old, w⟩, hmem, rfl, rfl⟩
    exact ⟨old, ⟨w, hmem⟩, rfl⟩
  · rintro ⟨old, ⟨v, hmem⟩, rfl⟩
    exact ⟨v, (old, v), hmem, rfl, rfl⟩

theorem value?_renamed (h : ∀ old, bindings.Bound old → r old = r name → old = name) :
    (bindings.renamed r).value? (r name) = bindings.value? name := by
  have hlookup : ∀ entries : Bindings, (∀ b ∈ entries, r b.1 = r name → b.1 = name) →
      (entries.map fun b => (r b.1, b.2)).lookup (r name) = entries.lookup name := by
    intro entries hentries
    induction entries with
    | nil => rfl
    | cons b entries ih =>
      obtain ⟨old, v⟩ := b
      rw [List.forall_mem_cons] at hentries
      by_cases hname : name = old
      · simp [hname]
      · have hne : (name == old) = false := beq_false_of_ne hname
        have hne' : (r name == r old) = false :=
          beq_false_of_ne fun heq => hname (hentries.1 heq.symm).symm
        rw [List.map_cons, List.lookup_cons, List.lookup_cons, hne, hne']
        exact ih hentries.2
  rw [value?, value?, renamed, ← List.map_reverse]
  apply hlookup
  intro b hb
  exact h b.1 ⟨b.2, List.mem_reverse.1 hb⟩

end Bindings

namespace Template

variable (t : Template) {r : String → String} {bindings : Bindings}

/-- The names of query and bindings agree under new names just when they agreed before. -/
theorem names_agree_renamed_iff
    (hinj : Set.InjOn r {name | t.Mentions name ∨ bindings.Bound name}) :
    (∀ name, (bindings.renamed r).Bound name ↔ (t.renamed r).Mentions name) ↔
      ∀ name, bindings.Bound name ↔ t.Mentions name := by
  have himage : r '' {name | bindings.Bound name} = r '' {name | t.Mentions name} ↔
      {name | bindings.Bound name} = {name | t.Mentions name} :=
    hinj.image_eq_image_iff (fun _ h => Or.inr h) (fun _ h => Or.inl h)
  rw [← Bindings.bound_renamed, ← mentions_renamed, Set.ext_iff, Set.ext_iff] at himage
  exact himage

theorem compile_renamed
    (hinj : Set.InjOn r {name | t.Mentions name ∨ bindings.Bound name}) (q : PositionalQuery) :
    (t.renamed r).compile (bindings.renamed r) = .ok q ↔ t.compile bindings = .ok q := by
  have hargs : (t.renamed r).parameters.filterMap (bindings.renamed r).value? =
      t.parameters.filterMap bindings.value? := by
    rw [parameters_renamed, List.filterMap_map]
    apply List.filterMap_congr
    intro name hname
    apply Bindings.value?_renamed
    intro old hold heq
    exact hinj (Or.inr hold) (Or.inl (t.mentions_iff.2 hname)) heq
  rw [compile_ok_iff, compile_ok_iff, ← and_assoc, ← and_assoc, no_mismatch_iff, no_mismatch_iff,
    t.names_agree_renamed_iff hinj, hargs, positionalSql_renamed, slots_renamed]

/-- A query whose placeholders are renamed has as many of them, under the new names; what is sent
is the same, and it compiles with renamed bindings to just what it compiled to before. -/
theorem names_invisible (g : Grammar) (query : String) (bindings : Bindings) (r : String → String)
    (hinj : Set.InjOn r {name | (parse g query).Mentions name ∨ bindings.Bound name})
    (hnames : ∀ name, (parse g query).Mentions name → g.IsName (r name)) :
    ∃ renamed : String,
      replaceSpans? 0 query.toList ((parse g query).placeholders.map fun p =>
        (p.span, g.parameterText (r p.name).toList)) = some renamed.toList ∧
      (parse g renamed).placeholders.map Placeholder.name =
        (parse g query).placeholders.map (fun p => r p.name) ∧
      (parse g renamed).positionalSql = (parse g query).positionalSql ∧
      (parse g renamed).slots = (parse g query).slots ∧
      ∀ q, (parse g renamed).compile (bindings.renamed r) = .ok q ↔
        (parse g query).compile bindings = .ok q := by
  refine ⟨((parse g query).renamed r).query, ?_, ?_, ?_, ?_, ?_⟩
  · have hreplaced := (parse g query).replaceSpans?_renamed r
    rw [query_parse] at hreplaced
    exact hreplaced
  · rw [parse_query_renamed r hnames, map_name_placeholders, parameters_renamed,
      ← map_name_placeholders, List.map_map]
    rfl
  · rw [parse_query_renamed r hnames]
    exact positionalSql_renamed _ r
  · rw [parse_query_renamed r hnames]
    exact slots_renamed _ r
  · rw [parse_query_renamed r hnames]
    exact (parse g query).compile_renamed hinj

/-- A new name may hold the marker, be longer, and sort elsewhere. -/
theorem names_invisible_of_marker_in_name :
    let query := "§ §x?§y é §y §x?§y"
    let t := parse (.sigil '§') query
    let bindings : Bindings := [("y", .int8 1), ("x?§y", .null), ("y", .text "?")]
    let r := fun name => if name = "y" then "a§longer" else if name = "x?§y" then "y" else name
    t.compile bindings = .ok ⟨"§ ? é ? ?", [.null, .text "?", .null], [3, 8, 10]⟩ ∧
    Set.InjOn r {name | t.Mentions name ∨ bindings.Bound name} ∧
    (∀ name, t.Mentions name → Grammar.IsName (.sigil '§') (r name)) ∧
    ∃ renamed : String,
      replaceSpans? 0 query.toList (t.placeholders.map fun p =>
        (p.span, Grammar.parameterText (.sigil '§') (r p.name).toList)) = some renamed.toList ∧
      (parse (.sigil '§') renamed).compile (bindings.renamed r) =
        .ok ⟨"§ ? é ? ?", [.null, .text "?", .null], [3, 8, 10]⟩ := by
  intro query t bindings r
  have hcompile : t.compile bindings = .ok ⟨"§ ? é ? ?", [.null, .text "?", .null], [3, 8, 10]⟩ := by
    decide +kernel
  have hmentions : ∀ name, t.Mentions name → name = "x?§y" ∨ name = "y" := by
    intro name hname
    have hparameters : t.parameters = ["x?§y", "y", "x?§y"] := by decide +kernel
    rw [mentions_iff, hparameters] at hname
    simpa [or_comm, or_left_comm] using hname
  have hbound : ∀ name, bindings.Bound name → name = "x?§y" ∨ name = "y" := by
    rintro name ⟨v, hv⟩
    simp only [bindings, List.mem_cons, Prod.mk.injEq, List.not_mem_nil, or_false] at hv
    rcases hv with ⟨rfl, _⟩ | ⟨rfl, _⟩ | ⟨rfl, _⟩ <;> simp
  have hinj : Set.InjOn r {name | t.Mentions name ∨ bindings.Bound name} := by
    intro a ha b hb hab
    have hcases : ∀ name, t.Mentions name ∨ bindings.Bound name → name = "x?§y" ∨ name = "y" :=
      fun name h => h.elim (hmentions name) (hbound name)
    rcases hcases a ha with rfl | rfl <;> rcases hcases b hb with rfl | rfl <;> simp_all [r]
  have hnames : ∀ name, t.Mentions name → Grammar.IsName (.sigil '§') (r name) := by
    intro name hname
    have hnonempty : r name ≠ "" := by
      rcases hmentions name hname with rfl | rfl <;> decide
    have hblank : (r name).toList.any isBlank = false := by
      rcases hmentions name hname with rfl | rfl <;> decide +kernel
    exact ⟨hnonempty, fun c hc => Bool.eq_false_iff.2 (List.any_eq_false.1 hblank c hc)⟩
  obtain ⟨renamed, htext, _, _, _, hsame⟩ :=
    names_invisible (.sigil '§') query bindings r hinj hnames
  exact ⟨hcompile, hinj, hnames, renamed, htext, (hsame _).2 hcompile⟩

end Template
end BoundQuery
