import BoundQuery.Cursor.Scan
import BoundQuery.Proofs.RowColumns

/-!
# Rows as maps

However often the columns of a list come, and in whatever pattern, the row made
of them is a map: each column once, in the order in which the columns first came,
with the value it came with last. What a row hands out makes the same row again.
-/

namespace BoundQuery
namespace Row

theorem pairwise_idxOf_eraseDups (l : List String) :
    l.eraseDups.Pairwise fun c d => l.idxOf c < l.idxOf d := by
  induction l using List.reverseRecOn with
  | nil => exact List.Pairwise.nil
  | append_singleton l a ih =>
    have hkept : l.eraseDups.Pairwise fun c d => (l ++ [a]).idxOf c < (l ++ [a]).idxOf d := by
      refine ih.imp_of_mem fun hc hd hlt => ?_
      rwa [List.idxOf_append, if_pos (List.mem_eraseDups.1 hc), List.idxOf_append,
        if_pos (List.mem_eraseDups.1 hd)]
    rw [List.eraseDups_append]
    by_cases ha : a ∈ l
    · simpa [List.removeAll, ha] using hkept
    · have hlast : (l ++ [a]).idxOf a = l.length := by
        simp [List.idxOf_append, ha]
      have hnew : ([a].removeAll l).eraseDups = [a] := by
        simp [List.removeAll, ha, List.eraseDups_cons]
      rw [hnew]
      refine List.pairwise_append.2 ⟨hkept, List.pairwise_singleton _ _, fun c hc d hd => ?_⟩
      have hcl := List.mem_eraseDups.1 hc
      rw [List.mem_singleton.1 hd, hlast, List.idxOf_append, if_pos hcl]
      exact List.idxOf_lt_length_iff.2 hcl

theorem exists_last_of_get?_ofList {pairs : List (String × SqlValue)} {c : String} {v : SqlValue}
    (h : (ofList pairs).get? c = some v) :
    ∃ earlier later, pairs = earlier ++ (c, v) :: later ∧ c ∉ later.map Prod.fst := by
  induction pairs using List.reverseRecOn with
  | nil => cases h
  | append_singleton pairs pair ih =>
    obtain ⟨column, w⟩ := pair
    rw [ofList_concat, get?_insert] at h
    by_cases hc : c = column
    · subst hc
      rw [if_pos rfl] at h
      cases h
      exact ⟨pairs, [], rfl, List.not_mem_nil⟩
    · rw [if_neg hc] at h
      obtain ⟨earlier, later, rfl, hlater⟩ := ih h
      refine ⟨earlier, later ++ [(column, w)], by simp, ?_⟩
      rw [List.map_append, List.mem_append, not_or]
      exact ⟨hlater, by simpa using hc⟩

theorem getElem?_entries_iff {r : Row} (hnodup : r.columns.Nodup) {i : Nat} {c : String}
    {v : SqlValue} :
    r.entries[i]? = some (c, v) ↔ r.columns[i]? = some c ∧ r.get? c = some v := by
  constructor
  · intro hentry
    exact ⟨(List.getElem?_zip_eq_some.1 hentry).1,
      get?_of_mem_entries hnodup (List.mem_of_getElem? hentry)⟩
  · rintro ⟨hcolumn, hget⟩
    obtain ⟨hi, _⟩ := List.getElem?_eq_some_iff.1 hcolumn
    rw [← r.length_values] at hi
    have hentry : r.entries[i]? = some (c, r.values[i]) :=
      List.getElem?_zip_eq_some.2 ⟨hcolumn, List.getElem?_eq_getElem hi⟩
    have hfound := get?_of_mem_entries hnodup (List.mem_of_getElem? hentry)
    rw [hentry, Option.some.inj (hfound.symm.trans hget)]

theorem ofList_entries {r : Row} (hnodup : r.columns.Nodup) : ofList r.entries = r := by
  have hentries : (ofList r.entries).entries = r.entries := by
    apply entries_ofList_of_nodup
    rwa [map_fst_entries]
  apply Row.ext
  · rw [← map_fst_entries, hentries, map_fst_entries]
  · rw [← map_snd_entries, hentries, map_snd_entries]

/-- A row that maps the names in a list of pairs, each to its last value and in the order in which
they first came. Rows and values are equal here bit for bit. -/
structure IsMapOf (pairs : List (String × SqlValue)) (r : Row) : Prop where
  distinct : r.columns.Nodup
  in_step : r.values.length = r.columns.length
  mem_columns : ∀ c, c ∈ r.columns ↔ c ∈ pairs.map Prod.fst
  first_seen : r.columns.Pairwise fun c d =>
    (pairs.map Prod.fst).idxOf c < (pairs.map Prod.fst).idxOf d
  last_value : ∀ c v, r.get? c = some v ↔
    ∃ earlier later, pairs = earlier ++ (c, v) :: later ∧ c ∉ later.map Prod.fst
  absent : ∀ c, r.get? c = none ↔ c ∉ pairs.map Prod.fst
  handed_out : ∀ (i : Nat) (c : String) (v : SqlValue),
    r.entries[i]? = some (c, v) ↔ r.columns[i]? = some c ∧ r.get? c = some v
  collected : ofList r.entries = r

theorem isMapOf_ofList (pairs : List (String × SqlValue)) : IsMapOf pairs (ofList pairs) := by
  have hcolumns := columns_ofList pairs
  have hmem : ∀ c, c ∈ (ofList pairs).columns ↔ c ∈ pairs.map Prod.fst := by
    intro c
    rw [hcolumns, List.mem_eraseDups]
  have hfirst := pairwise_idxOf_eraseDups (pairs.map Prod.fst)
  rw [← hcolumns] at hfirst
  have hdistinct : (ofList pairs).columns.Nodup := by
    refine hfirst.imp fun {c d} hlt => ?_
    rintro rfl
    exact Nat.lt_irrefl _ hlt
  constructor
  case distinct => exact hdistinct
  case in_step => exact (ofList pairs).length_values
  case mem_columns => exact hmem
  case first_seen => exact hfirst
  case last_value =>
    intro c v
    constructor
    · exact exists_last_of_get?_ofList
    · rintro ⟨earlier, later, rfl, hlater⟩
      exact get?_ofList_append_cons hlater earlier v
  case absent => exact fun c => get?_eq_none_iff.trans (not_congr (hmem c))
  case handed_out => exact fun i c v => getElem?_entries_iff hdistinct
  case collected => exact ofList_entries hdistinct

/-- A row is the map of its list of pairs, whether it is collected from the pairs or scanned from a
buffer with their values under their columns. -/
theorem pairs_make_map (pairs : List (String × SqlValue)) :
    IsMapOf pairs (ofList pairs) ∧
    ∃ r, ((Scanner.rows (pairs.map Prod.fst)).take (pairs.map Prod.snd)).value = .ok r ∧
      IsMapOf pairs r := by
  have hzip : (pairs.map Prod.fst).zip (pairs.map Prod.snd) = pairs := by
    rw [← List.unzip_fst, ← List.unzip_snd, List.zip_unzip]
  refine ⟨isMapOf_ofList pairs, ofList ((pairs.map Prod.fst).zip (pairs.map Prod.snd)), rfl, ?_⟩
  rw [hzip]
  exact isMapOf_ofList pairs

example : (ofList [("a", .int8 1), ("b", .null), ("a", .int8 2)]).entries =
    [("a", .int8 2), ("b", .null)] := by decide

end Row
end BoundQuery
