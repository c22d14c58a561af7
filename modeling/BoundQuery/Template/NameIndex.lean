import BoundQuery.Text.ByteOrder

/-!
# Indexes of names

An index maps each name to the ordinals at which it occurs. It is filled in text
order: an ordinal goes behind those its name has already, and a new name goes to
its place among the others, which are kept in the order of their bytes.
-/

namespace BoundQuery

/-- Names in ascending order, each with its ordinals. -/
abbrev NameIndex := List (String × List Nat)

namespace NameIndex

/-- Adds an ordinal to a name's, and the name itself if it is new. -/
def note (name : String) (ordinal : Nat) : NameIndex → NameIndex
  | [] => [(name, [ordinal])]
  | (n, ordinals) :: rest =>
    if name = n then (n, ordinals ++ [ordinal]) :: rest
    else if Text.encode name < Text.encode n then (name, [ordinal]) :: (n, ordinals) :: rest
    else (n, ordinals) :: note name ordinal rest

/-- Notes names one after the other, the first under the ordinal `start`. -/
def noteFrom (index : NameIndex) : Nat → List String → NameIndex
  | _, [] => index
  | start, name :: names => noteFrom (index.note name start) (start + 1) names

def ofNames (names : List String) : NameIndex := noteFrom [] 0 names

def names (index : NameIndex) : List String := index.map Prod.fst

def ordinals (index : NameIndex) (name : String) : List Nat := (index.lookup name).getD []

theorem lookup_cons (n name : String) (ordinals : List Nat) (rest : NameIndex) :
    List.lookup n ((name, ordinals) :: rest) =
      if n = name then some ordinals else rest.lookup n := by
  rw [List.lookup_cons]
  split <;> simp_all

theorem mem_names_note {index : NameIndex} {name n : String} {k : Nat} :
    n ∈ (index.note name k).names ↔ n = name ∨ n ∈ index.names := by
  induction index with
  | nil => simp [note, names]
  | cons entry rest ih =>
    obtain ⟨m, ordinals⟩ := entry
    unfold note
    split
    · next h => subst h; simp [names]
    · split
      · simp [names]
      · simp only [names, List.map_cons, List.mem_cons] at ih ⊢
        rw [ih]
        constructor <;> rintro (h | h | h) <;> simp [h]

theorem pairwise_names_note {index : NameIndex} (h : index.names.Pairwise (· < ·)) (name : String)
    (k : Nat) : (index.note name k).names.Pairwise (· < ·) := by
  induction index with
  | nil => exact List.pairwise_singleton _ _
  | cons entry rest ih =>
    obtain ⟨m, ordinals⟩ := entry
    obtain ⟨hm, hrest⟩ := List.pairwise_cons.1 h
    unfold note
    split
    · exact h
    · next hne =>
      split
      · next hbytes =>
        have hlt : name < m := Text.encode_lt_encode_iff.1 hbytes
        refine List.pairwise_cons.2 ⟨fun n hn => ?_, h⟩
        rcases List.mem_cons.1 hn with rfl | hn
        · exact hlt
        · exact String.lt_trans hlt (hm n hn)
      · next hbytes =>
        have hle : ¬ name < m := mt Text.encode_lt_encode_iff.2 hbytes
        have hgt : m < name :=
          Decidable.by_contra fun hnot =>
            hne (String.le_antisymm (String.not_lt.1 hnot) (String.not_lt.1 hle))
        refine List.pairwise_cons.2 ⟨fun n hn => ?_, ih hrest⟩
        rcases mem_names_note.1 hn with rfl | hn
        · exact hgt
        · exact hm n hn

theorem lookup_eq_none_of_lt {index : NameIndex} {name : String}
    (h : ∀ n ∈ index.names, name < n) : index.lookup name = none := by
  rw [List.lookup_eq_none_iff]
  intro entry hentry
  have hlt := h entry.1 (List.mem_map_of_mem hentry)
  have hne : name ≠ entry.1 := fun heq => String.lt_irrefl _ (heq ▸ hlt)
  simpa using hne

/-- Noting an ordinal adds it to its name's and leaves the others' alone. -/
theorem lookup_note {index : NameIndex} (h : index.names.Pairwise (· < ·)) (name n : String)
    (k : Nat) : (index.note name k).lookup n =
      if n = name then some (index.ordinals name ++ [k]) else index.lookup n := by
  induction index with
  | nil => simp [note, ordinals, lookup_cons]
  | cons entry rest ih =>
    obtain ⟨m, old⟩ := entry
    obtain ⟨hm, hrest⟩ := List.pairwise_cons.1 h
    unfold note
    split
    · next heq =>
      subst heq
      simp only [ordinals, lookup_cons, if_true, Option.getD_some]
      split <;> rfl
    · next hne =>
      split
      · next hbytes =>
        have hlt : name < m := Text.encode_lt_encode_iff.1 hbytes
        have hnone : List.lookup name ((m, old) :: rest) = none := by
          apply lookup_eq_none_of_lt
          intro other hother
          rcases List.mem_cons.1 hother with rfl | hother
          · exact hlt
          · exact String.lt_trans hlt (hm other hother)
        simp only [ordinals, hnone, Option.getD_none, List.nil_append]
        rw [lookup_cons]
      · have hordinals : ordinals ((m, old) :: rest) name = ordinals rest name := by
          simp only [ordinals, lookup_cons, if_neg hne]
        rw [lookup_cons, ih hrest, hordinals, lookup_cons]
        by_cases hn : n = name
        · have hnm : n ≠ m := hn ▸ hne
          simp only [if_neg hnm]
        · simp only [if_neg hn]

/-- What an index of a list of names holds. -/
structure Indexes (index : NameIndex) (listed : List String) : Prop where
  ascending : index.names.Pairwise (· < ·)
  lookup_ne_nil : ∀ name, index.lookup name ≠ some []
  pairwise_ordinals : ∀ name, (index.ordinals name).Pairwise (· < ·)
  mem_ordinals : ∀ name k, k ∈ index.ordinals name ↔ listed[k]? = some name

theorem indexes_nil : Indexes [] [] where
  ascending := List.Pairwise.nil
  lookup_ne_nil _ h := by cases h
  pairwise_ordinals _ := List.Pairwise.nil
  mem_ordinals name k := by simp [ordinals]

/-- The next name of a list is noted under the number of names before it. -/
theorem Indexes.concat {index : NameIndex} {listed : List String} (h : index.Indexes listed)
    (name : String) : (index.note name listed.length).Indexes (listed ++ [name]) := by
  have hlookup := fun n => lookup_note h.ascending name n listed.length
  have hordinals : ∀ n, (index.note name listed.length).ordinals n =
      if n = name then index.ordinals name ++ [listed.length] else index.ordinals n := by
    intro n
    rw [ordinals, hlookup]
    split <;> rfl
  refine ⟨pairwise_names_note h.ascending _ _, ?_, ?_, ?_⟩
  · intro n
    rw [hlookup]
    split
    · simp
    · exact h.lookup_ne_nil n
  · intro n
    rw [hordinals]
    split
    · refine List.pairwise_append.2 ⟨h.pairwise_ordinals name, List.pairwise_singleton _ _, ?_⟩
      intro k hk last hlast
      rw [List.mem_singleton.1 hlast]
      exact (List.getElem?_eq_some_iff.1 ((h.mem_ordinals name k).1 hk)).1
    · exact h.pairwise_ordinals n
  · intro n k
    have hold := h.mem_ordinals n k
    rw [hordinals]
    rcases Nat.lt_trichotomy k listed.length with hlt | rfl | hgt
    · rw [List.getElem?_append_left hlt, ← hold]
      split
      · next heq =>
        subst heq
        have hne : k ≠ listed.length := by omega
        simp [hne]
      · rfl
    · have hnone : listed[listed.length]? = none := List.getElem?_eq_none (Nat.le_refl _)
      rw [hnone] at hold
      rw [List.getElem?_concat_length]
      split
      · next heq => simp [heq]
      · next hne =>
        have hne' : name ≠ n := Ne.symm hne
        simpa [hne'] using hold
    · have hnone : listed[k]? = none := List.getElem?_eq_none (by omega)
      have hnone' : (listed ++ [name])[k]? = none :=
        List.getElem?_eq_none (by rw [List.length_append, List.length_singleton]; omega)
      rw [hnone] at hold
      rw [hnone', ← hold]
      split
      · next heq =>
        subst heq
        have hne : k ≠ listed.length := by omega
        simp [hne]
      · rfl

/-- Noting the names that follow leaves nothing out and invents nothing. -/
theorem Indexes.noteFrom {index : NameIndex} {listed : List String} (h : index.Indexes listed)
    (later : List String) : (index.noteFrom listed.length later).Indexes (listed ++ later) := by
  induction later generalizing index listed with
  | nil =>
    rw [List.append_nil]
    exact h
  | cons name later ih =>
    have hrest := ih (h.concat name)
    rwa [List.length_append, List.length_singleton, List.append_assoc,
      List.singleton_append] at hrest

theorem indexes_ofNames (listed : List String) : (ofNames listed).Indexes listed :=
  indexes_nil.noteFrom listed

theorem mem_names_iff {index : NameIndex} {name : String} :
    name ∈ index.names ↔ (index.lookup name).isSome = true := by
  rw [List.lookup_isSome_iff, names, List.mem_map]
  constructor
  · rintro ⟨entry, hentry, rfl⟩
    exact ⟨entry, hentry, by simp⟩
  · rintro ⟨entry, hentry, hname⟩
    exact ⟨entry, hentry, (eq_of_beq hname).symm⟩

theorem Indexes.isSome_lookup_iff {index : NameIndex} {listed : List String}
    (h : index.Indexes listed) {name : String} :
    (index.lookup name).isSome = true ↔ name ∈ listed := by
  have hmem := h.mem_ordinals name
  have hne := h.lookup_ne_nil name
  unfold ordinals at hmem
  rw [List.mem_iff_getElem?]
  cases hlookup : index.lookup name with
  | none =>
    rw [hlookup] at hmem
    simpa using fun k => mt (hmem k).2 (List.not_mem_nil)
  | some ordinals =>
    rw [hlookup] at hmem hne
    obtain ⟨k, hk⟩ := List.exists_mem_of_ne_nil ordinals fun heq => hne (congrArg some heq)
    exact ⟨fun _ => ⟨k, (hmem k).1 hk⟩, fun _ => rfl⟩

end NameIndex
end BoundQuery
