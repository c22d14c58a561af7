import BoundQuery.Template.Names

/-!
# Occurrences shared out among the names

Every occurrence of a parameter belongs to one name of the index, the one that
stands there, and every name of the index has at least one. So the index holds
what the placeholders hold, arranged by name.
-/

namespace BoundQuery
namespace Template

variable {t : Template}

theorem getElem?_parameters_eq_some_iff {k : Nat} {name : String} :
    t.parameters[k]? = some name ↔ ∃ p, t.placeholders[k]? = some p ∧ p.name = name := by
  rw [← t.map_name_placeholders, List.getElem?_map, Option.map_eq_some_iff]

theorem mem_parameters_iff {name : String} :
    name ∈ t.parameters ↔ ∃ p ∈ t.placeholders, p.name = name := by
  rw [← t.map_name_placeholders, List.mem_map]

theorem length_placeholders : t.placeholders.length = t.total := by
  rw [total, ← t.map_name_placeholders, List.length_map]

section Positions

variable {name : String} {ordinals : List Nat}

theorem positions?_ne_nil (h : t.positions? name = some ordinals) : ordinals ≠ [] := by
  rintro rfl
  exact t.indexes_index.lookup_ne_nil name h

theorem ordinals_of_positions? (h : t.positions? name = some ordinals) :
    t.ordinals name = ordinals := by
  have hlookup : t.index.lookup name = some ordinals := h
  rw [Template.ordinals, NameIndex.ordinals, hlookup, Option.getD_some]

theorem pairwise_of_positions? (h : t.positions? name = some ordinals) :
    ordinals.Pairwise (· < ·) := by
  rw [← ordinals_of_positions? h]
  exact t.indexes_index.pairwise_ordinals name

theorem mem_of_positions? (h : t.positions? name = some ordinals) {k : Nat} :
    k ∈ ordinals ↔ t.parameters[k]? = some name := by
  rw [← ordinals_of_positions? h]
  exact t.indexes_index.mem_ordinals name k

theorem exists_positions?_of_getElem? {k : Nat} (h : t.parameters[k]? = some name) :
    ∃ ordinals, t.positions? name = some ordinals ∧ k ∈ ordinals := by
  have hcontains : (t.positions? name).isSome = true :=
    t.contains_iff.2 (List.mem_of_getElem? h)
  obtain ⟨ordinals, hpositions⟩ := Option.isSome_iff_exists.1 hcontains
  exact ⟨ordinals, hpositions, (mem_of_positions? hpositions).2 h⟩

end Positions

/-- The lists of ordinals of the names are the parts of a partition of all ordinals, each name's
part the ordinals of its occurrences, and the names are listed in the order of their code points. -/
structure SharedOut (t : Template) : Prop where
  length_placeholders : t.placeholders.length = t.total
  nonempty : ∀ name ordinals, t.positions? name = some ordinals → ordinals ≠ []
  ascending : ∀ name ordinals, t.positions? name = some ordinals → ordinals.Pairwise (· < ·)
  disjoint : ∀ name other ordinals others, t.positions? name = some ordinals →
    t.positions? other = some others → name ≠ other → ∀ k ∈ ordinals, k ∉ others
  covers : ∀ k, k < t.total ↔ ∃ name ordinals, t.positions? name = some ordinals ∧ k ∈ ordinals
  occurs : ∀ name k, (∃ ordinals, t.positions? name = some ordinals ∧ k ∈ ordinals) ↔
    ∃ p, t.placeholders[k]? = some p ∧ p.name = name
  contains : ∀ name, t.contains name = true ↔ ∃ ordinals, t.positions? name = some ordinals
  present : ∀ name, (∃ ordinals, t.positions? name = some ordinals) ↔
    ∃ p ∈ t.placeholders, p.name = name
  names_ascending : t.names.Pairwise fun name other => name.toList < other.toList
  mem_names : ∀ name, name ∈ t.names ↔ ∃ p ∈ t.placeholders, p.name = name

/-- A query read under any grammar has its occurrences shared out among its names. -/
theorem parse_sharedOut (g : Grammar) (query : String) : (parse g query).SharedOut := by
  generalize parse g query = t
  have hcontains : ∀ name, t.contains name = true ↔
      ∃ ordinals, t.positions? name = some ordinals :=
    fun name => Option.isSome_iff_exists
  have hpresent : ∀ name, t.contains name = true ↔ ∃ p ∈ t.placeholders, p.name = name :=
    fun name => t.contains_iff.trans mem_parameters_iff
  constructor
  case length_placeholders => exact length_placeholders
  case nonempty => exact fun name ordinals h => positions?_ne_nil h
  case ascending => exact fun name ordinals h => pairwise_of_positions? h
  case disjoint =>
    intro name other ordinals others hordinals hothers hne k hk hk'
    have hname := (mem_of_positions? hordinals).1 hk
    have hother := (mem_of_positions? hothers).1 hk'
    exact hne (Option.some.inj (hname.symm.trans hother))
  case covers =>
    intro k
    constructor
    · intro hk
      have hget : t.parameters[k]? = some t.parameters[k] := List.getElem?_eq_getElem hk
      exact ⟨_, exists_positions?_of_getElem? hget⟩
    · rintro ⟨name, ordinals, hordinals, hk⟩
      exact (List.getElem?_eq_some_iff.1 ((mem_of_positions? hordinals).1 hk)).1
  case occurs =>
    intro name k
    rw [← getElem?_parameters_eq_some_iff]
    constructor
    · rintro ⟨ordinals, hordinals, hk⟩
      exact (mem_of_positions? hordinals).1 hk
    · exact exists_positions?_of_getElem?
  case contains => exact hcontains
  case present => exact fun name => (hcontains name).symm.trans (hpresent name)
  case names_ascending => exact t.pairwise_names
  case mem_names => exact fun name => t.mem_names.trans mem_parameters_iff

example : ((parse (.delimited ':') ":b: :a: :b: :é:").positions? "b",
    (parse (.delimited ':') ":b: :a: :b: :é:").names) = (some [0, 2], ["a", "b", "é"]) := by
  decide +kernel

end Template
end BoundQuery
