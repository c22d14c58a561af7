import BoundQuery.Statement.Basic
import Mathlib.Data.List.Forall2

/-!
# What compiles

Named bindings compile against a query just when the bound names are the names
of its placeholders. The arguments then go with the placeholders one by one,
and otherwise each difference between the two sets of names is reported in full.
-/

namespace BoundQuery

namespace Bindings

variable {bindings : Bindings} {name : String} {v : SqlValue}

def Bound (bindings : Bindings) (name : String) : Prop := ∃ v, (name, v) ∈ bindings

/-- Whether the last value bound to a name is this one. -/
def LastBound (bindings : Bindings) (name : String) (v : SqlValue) : Prop :=
  ∃ earlier later, bindings = earlier ++ (name, v) :: later ∧ ∀ b ∈ later, b.1 ≠ name

theorem value?_eq_some_iff : bindings.value? name = some v ↔ bindings.LastBound name v := by
  rw [value?, List.lookup_eq_some_iff]
  constructor
  · rintro ⟨later, earlier, hreverse, hlater⟩
    refine ⟨earlier.reverse, later.reverse, ?_, ?_⟩
    · rw [← List.reverse_reverse bindings, hreverse]
      simp
    · intro b hb
      exact (bne_iff_ne.1 (hlater b (List.mem_reverse.1 hb))).symm
  · rintro ⟨earlier, later, rfl, hlater⟩
    refine ⟨later.reverse, earlier.reverse, by simp, ?_⟩
    intro b hb
    exact bne_iff_ne.2 (hlater b (List.mem_reverse.1 hb)).symm

theorem Bound.exists_value? (h : bindings.Bound name) : ∃ v, bindings.value? name = some v := by
  obtain ⟨v, hv⟩ := h
  cases hvalue : bindings.value? name with
  | some w => exact ⟨w, rfl⟩
  | none =>
    rw [value?, List.lookup_eq_none_iff] at hvalue
    have hne := hvalue (name, v) (List.mem_reverse.2 hv)
    simp at hne

theorem forall₂_filterMap_value? {names : List String} (h : ∀ name ∈ names, bindings.Bound name) :
    List.Forall₂ bindings.LastBound names (names.filterMap bindings.value?) := by
  induction names with
  | nil => exact .nil
  | cons name names ih =>
    obtain ⟨v, hv⟩ := (h name (by simp)).exists_value?
    rw [List.filterMap_cons_some hv]
    exact .cons (value?_eq_some_iff.1 hv) (ih fun n hn => h n (by simp [hn]))

end Bindings

namespace Template

variable (t : Template)

def Mentions (name : String) : Prop := ∃ p ∈ t.placeholders, p.name = name

theorem mentions_iff {name : String} : t.Mentions name ↔ name ∈ t.parameters := by
  rw [← t.map_name_placeholders, List.mem_map]
  rfl

theorem mem_missing_iff {bindings : Bindings} {name : String} :
    name ∈ t.missing bindings ↔ t.Mentions name ∧ ¬ bindings.Bound name := by
  rw [t.mem_missing, t.mentions_iff, Bindings.mem_names, Bindings.Bound]

theorem mem_unexpected_iff {bindings : Bindings} {name : String} :
    name ∈ t.unexpected bindings ↔ bindings.Bound name ∧ ¬ t.Mentions name := by
  rw [t.mem_unexpected, t.mentions_iff, Bindings.mem_names, Bindings.Bound]

theorem no_mismatch_iff (bindings : Bindings) :
    (t.missing bindings = [] ∧ t.unexpected bindings = []) ↔
      ∀ name, bindings.Bound name ↔ t.Mentions name := by
  simp only [List.eq_nil_iff_forall_not_mem, mem_missing_iff, mem_unexpected_iff]
  constructor
  · rintro ⟨hmissing, hunexpected⟩ name
    constructor
    · intro hbound
      by_contra hnot
      exact hunexpected name ⟨hbound, hnot⟩
    · intro hmentions
      by_contra hnot
      exact hmissing name ⟨hmentions, hnot⟩
  · intro h
    exact ⟨fun name hn => hn.2 ((h name).2 hn.1), fun name hn => hn.2 ((h name).1 hn.1)⟩

theorem pairwise_missing (bindings : Bindings) : (t.missing bindings).Pairwise (· < ·) :=
  t.pairwise_names.filter _

theorem pairwise_unexpected (bindings : Bindings) : (t.unexpected bindings).Pairwise (· < ·) :=
  (pairwise_distinctNames _).filter _

theorem compile_eq_ok {bindings : Bindings} (h : ∀ name, bindings.Bound name ↔ t.Mentions name) :
    t.compile bindings =
      .ok ⟨t.positionalSql, t.parameters.filterMap bindings.value?, t.slots⟩ := by
  obtain ⟨hmissing, hunexpected⟩ := (t.no_mismatch_iff bindings).2 h
  exact (t.compile_ok_iff bindings _).2 ⟨hmissing, hunexpected, rfl⟩

theorem compile_eq_error {bindings : Bindings}
    (h : ¬ ∀ name, bindings.Bound name ↔ t.Mentions name) :
    t.compile bindings =
      .error (.parameterMismatch (t.missing bindings) (t.unexpected bindings)) := by
  rw [← t.no_mismatch_iff] at h
  unfold compile
  rw [if_neg]
  simpa using h

/-- The arguments of a compiled query go with its placeholders, each with the value bound last to
its name. -/
theorem forall₂_placeholders_args {bindings : Bindings} {q : PositionalQuery}
    (h : t.compile bindings = .ok q) :
    List.Forall₂ (fun p v => bindings.LastBound p.name v) t.placeholders q.args := by
  obtain ⟨hmissing, hunexpected, rfl⟩ := (t.compile_ok_iff bindings q).1 h
  have hnames := (t.no_mismatch_iff bindings).1 ⟨hmissing, hunexpected⟩
  have hbound : ∀ name ∈ t.parameters, bindings.Bound name :=
    fun name hn => (hnames name).2 (t.mentions_iff.2 hn)
  have hforall := Bindings.forall₂_filterMap_value? hbound
  rw [← t.map_name_placeholders, List.forall₂_map_left_iff] at hforall
  simpa [← t.map_name_placeholders] using hforall

theorem flatMap_positional {g : Grammar} {pieces : List Piece}
    (h : pieces.filterMap Piece.name? = []) :
    pieces.flatMap Piece.positional = pieces.flatMap (Piece.text g) := by
  induction pieces with
  | nil => rfl
  | cons piece pieces ih =>
    cases piece with
    | literal c => simpa [Piece.positional, Piece.text] using ih (by simpa using h)
    | parameter name => simp at h

/-- A query without parameters compiles to itself, with no slots for its own question marks. -/
theorem compile_nil_of_no_parameters (h : t.parameters = []) :
    t.compile [] = .ok ⟨t.query, [], []⟩ := by
  have hsql : t.positionalSql = t.query := by
    rw [positionalSql, positionalText, flatMap_positional (g := t.grammar) h, query]
  have hslots : t.slots = [] := by
    apply List.eq_nil_of_length_eq_zero
    rw [t.length_slots, total, h, List.length_nil]
  have hnames : ∀ name, Bindings.Bound [] name ↔ t.Mentions name := by
    intro name
    simp [Bindings.Bound, mentions_iff, h]
  rw [t.compile_eq_ok hnames, hsql, hslots, h, List.filterMap_nil]

/-- A compile succeeds just when the bound names are the names in the query, with an argument for
each occurrence; otherwise it reports exactly the names on one side only. -/
theorem compile_outcome (g : Grammar) (query : String) (bindings : Bindings) :
    ((∃ q, (parse g query).compile bindings = .ok q) ↔
      ∀ name, bindings.Bound name ↔ (parse g query).Mentions name) ∧
    match (parse g query).compile bindings with
    | .ok q => q.args.length = (parse g query).total ∧
        List.Forall₂ (fun p v => bindings.LastBound p.name v) (parse g query).placeholders q.args
    | .error e => ∃ missing unexpected, e = .parameterMismatch missing unexpected ∧
        (∀ name, name ∈ missing ↔ (parse g query).Mentions name ∧ ¬ bindings.Bound name) ∧
        (∀ name, name ∈ unexpected ↔ bindings.Bound name ∧ ¬ (parse g query).Mentions name) ∧
        missing.Pairwise (· < ·) ∧ unexpected.Pairwise (· < ·) ∧
        List.Disjoint missing unexpected ∧ (missing ≠ [] ∨ unexpected ≠ []) := by
  by_cases h : ∀ name, bindings.Bound name ↔ (parse g query).Mentions name
  · have hok := (parse g query).compile_eq_ok h
    refine ⟨⟨fun _ => h, fun _ => ⟨_, hok⟩⟩, ?_⟩
    have hargs := (parse g query).forall₂_placeholders_args hok
    rw [hok]
    refine ⟨?_, hargs⟩
    rw [← hargs.length_eq, total, ← map_name_placeholders, List.length_map]
  · have herror := (parse g query).compile_eq_error h
    refine ⟨⟨?_, fun hnames => absurd hnames h⟩, ?_⟩
    · rintro ⟨q, hq⟩
      rw [herror] at hq
      cases hq
    · rw [herror]
      refine ⟨_, _, rfl, fun name => mem_missing_iff _, fun name => mem_unexpected_iff _,
        pairwise_missing _ _, pairwise_unexpected _ _, ?_, ?_⟩
      · intro name hmissing hunexpected
        exact ((mem_unexpected_iff _).1 hunexpected).2 ((mem_missing_iff _).1 hmissing).1
      · rw [← no_mismatch_iff, Classical.not_and_iff_not_or_not] at h
        exact h

end Template

namespace Statement

variable {s : Statement}

theorem positionalQuery_of_positional_eq_nil (h : s.positional = []) :
    s.positionalQuery = s.template.compile s.named := by
  unfold positionalQuery
  rw [h]
  cases hnamed : s.named with
  | cons b bs => rfl
  | nil =>
    dsimp only
    split
    · rfl
    · next hplain =>
      have htotal : s.template.parameters = [] := by
        simpa [isParameterized, Template.total] using hplain
      exact (s.template.compile_nil_of_no_parameters htotal).symm

theorem positionalQuery_of_positional_ne_nil (h : s.positional ≠ []) {q : PositionalQuery}
    (hq : s.positionalQuery = .ok q) :
    s.named = [] ∧ q = ⟨s.query, s.positional, nativeSlots s.query⟩ := by
  unfold positionalQuery at hq
  cases hpositional : s.positional with
  | nil => exact absurd hpositional h
  | cons v vs =>
    cases hnamed : s.named with
    | nil =>
      rw [hpositional, hnamed] at hq
      exact ⟨rfl, (Except.ok.inj hq).symm⟩
    | cons b bs =>
      rw [hpositional, hnamed] at hq
      cases hq

theorem positionalQuery_of_compile_eq_ok {c : CompiledStatement} (h : s.compile = .ok c) :
    s.positionalQuery = .ok c.toPositionalQuery := by
  unfold compile at h
  cases hq : s.positionalQuery with
  | error e => rw [hq] at h; cases h
  | ok q =>
    rw [hq] at h
    rw [← Except.ok.inj h]

theorem compile_eq_error_iff {e : Error} : s.compile = .error e ↔ s.positionalQuery = .error e := by
  unfold compile
  cases s.positionalQuery <;> simp [Except.map]

theorem map_toPositionalQuery_compile :
    s.compile.map CompiledStatement.toPositionalQuery = s.positionalQuery := by
  unfold compile
  cases s.positionalQuery <;> rfl

theorem parameterMismatch_of_compile_eq_error (hpositional : s.positional = []) {e : Error}
    (h : s.compile = .error e) : ∃ missing unexpected, e = .parameterMismatch missing unexpected := by
  rw [compile_eq_error_iff, positionalQuery_of_positional_eq_nil hpositional, Template.compile] at h
  split at h
  · cases h
  · exact ⟨_, _, (Except.error.inj h).symm⟩

theorem compile_eq_mixedBindings_iff :
    s.compile = .error .mixedBindings ↔ s.named ≠ [] ∧ s.positional ≠ [] := by
  cases hpositional : s.positional with
  | nil =>
    refine ⟨fun h => ?_, fun h => absurd rfl h.2⟩
    obtain ⟨_, _, he⟩ := parameterMismatch_of_compile_eq_error hpositional h
    cases he
  | cons v vs =>
    rw [compile_eq_error_iff, positionalQuery, hpositional]
    cases s.named <;> simp

theorem compile_of_positional (hnamed : s.named = []) (hpositional : s.positional ≠ []) :
    ∃ c, s.compile = .ok c ∧ c.sql = s.query ∧ c.args = s.positional := by
  obtain ⟨v, vs, hcons⟩ := List.exists_cons_of_ne_nil hpositional
  have hquery : s.positionalQuery = .ok ⟨s.query, s.positional, nativeSlots s.query⟩ := by
    simp [positionalQuery, hnamed, hcons]
  exact ⟨_, by rw [compile, hquery]; rfl, rfl, rfl⟩

end Statement
end BoundQuery
