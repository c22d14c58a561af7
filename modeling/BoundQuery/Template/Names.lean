import BoundQuery.Template.Basic
import BoundQuery.Template.NameIndex

/-!
# Parameter names

The distinct names of a template in ascending order of code points, and for each
name the ordinals of its occurrences in text order, both from one index.
-/

namespace BoundQuery

/-- Adds a name to an ascending list unless it is there. -/
def insertName (name : String) : List String → List String
  | [] => [name]
  | n :: ns =>
    if name = n then n :: ns
    else if Text.encode name < Text.encode n then name :: n :: ns
    else n :: insertName name ns

def distinctNames (names : List String) : List String := names.foldr insertName []

@[simp] theorem mem_insertName {name n : String} {ns : List String} :
    n ∈ insertName name ns ↔ n = name ∨ n ∈ ns := by
  induction ns with
  | nil => simp [insertName]
  | cons m ms ih =>
    unfold insertName
    split
    · next h => subst h; simp
    · split
      · simp
      · simp only [List.mem_cons, ih]
        constructor <;> rintro (h | h | h) <;> simp [h]

@[simp] theorem mem_distinctNames {n : String} {names : List String} :
    n ∈ distinctNames names ↔ n ∈ names := by
  induction names with
  | nil => simp [distinctNames]
  | cons name names ih =>
    change n ∈ insertName name (distinctNames names) ↔ n ∈ name :: names
    rw [mem_insertName, ih, List.mem_cons]

theorem pairwise_insertName {name : String} {ns : List String} (h : ns.Pairwise (· < ·)) :
    (insertName name ns).Pairwise (· < ·) := by
  induction ns with
  | nil => simp [insertName]
  | cons m ms ih =>
    obtain ⟨hm, hms⟩ := List.pairwise_cons.1 h
    unfold insertName
    split
    · exact h
    · next hne =>
      split
      · next hbytes =>
        have hlt : name < m := Text.encode_lt_encode_iff.1 hbytes
        refine List.pairwise_cons.2 ⟨fun n hn => ?_, h⟩
        rcases List.mem_cons.1 hn with rfl | hn
        · exact hlt
        · exact String.lt_trans hlt (hm n hn)
      · next hbytes =>
        have hle : ¬ name < m := mt Text.encode_lt_encode_iff.2 hbytes
        have hgt : m < name :=
          Decidable.by_contra fun hnot =>
            hne (String.le_antisymm (String.not_lt.1 hnot) (String.not_lt.1 hle))
        refine List.pairwise_cons.2 ⟨fun n hn => ?_, ih hms⟩
        rcases mem_insertName.1 hn with rfl | hn
        · exact hgt
        · exact hm n hn

theorem pairwise_distinctNames (names : List String) : (distinctNames names).Pairwise (· < ·) := by
  induction names with
  | nil => exact List.Pairwise.nil
  | cons name names ih => exact pairwise_insertName ih

namespace Template

variable (t : Template)

/-- The names with the ordinals of their occurrences. -/
def index : NameIndex := .ofNames t.parameters

def names : List String := t.index.names

def contains (name : String) : Bool := (t.index.lookup name).isSome

def positions? (name : String) : Option (List Nat) := t.index.lookup name

/-- The ordinals at which a name occurs, ascending. -/
def ordinals (name : String) : List Nat := t.index.ordinals name

theorem indexes_index : t.index.Indexes t.parameters := NameIndex.indexes_ofNames t.parameters

theorem pairwise_names : t.names.Pairwise (· < ·) := t.indexes_index.ascending

theorem contains_iff {name : String} : t.contains name = true ↔ name ∈ t.parameters :=
  t.indexes_index.isSome_lookup_iff

theorem mem_names {name : String} : name ∈ t.names ↔ name ∈ t.parameters := by
  rw [names, NameIndex.mem_names_iff, ← contains_iff, contains]

end Template
end BoundQuery
