import BoundQuery.Row
import Mathlib.Data.List.Induction

/-!
# What a list of columns makes of a row

The columns of a row are those of the list, each once and where it first came,
and each has the value that it came with last.
-/

namespace BoundQuery
namespace Row

theorem ofList_concat (entries : List (String × SqlValue)) (column : String) (v : SqlValue) :
    ofList (entries ++ [(column, v)]) = (ofList entries).insert column v := by
  rw [ofList, List.foldl_append]
  rfl

/-- A row has each of the listed columns once, in the order in which they first came. -/
theorem columns_ofList (entries : List (String × SqlValue)) :
    (ofList entries).columns = (entries.map Prod.fst).eraseDups := by
  induction entries using List.reverseRecOn with
  | nil => rfl
  | append_singleton entries entry ih =>
    obtain ⟨column, v⟩ := entry
    have hmem : column ∈ (ofList entries).columns ↔ column ∈ entries.map Prod.fst := by
      rw [ih, List.mem_eraseDups]
    rw [ofList_concat, columns_insert, List.map_append, List.eraseDups_append, ← ih]
    by_cases h : column ∈ entries.map Prod.fst
    · rw [if_pos (hmem.2 h)]
      simp [List.removeAll, h]
    · rw [if_neg (mt hmem.1 h)]
      simp [List.removeAll, h, List.eraseDups_cons]

theorem get?_ofList_append_cons {later : List (String × SqlValue)} {column : String}
    (h : column ∉ later.map Prod.fst) (entries : List (String × SqlValue)) (v : SqlValue) :
    (ofList (entries ++ (column, v) :: later)).get? column = some v := by
  induction later using List.reverseRecOn with
  | nil => rw [ofList_concat, get?_insert, if_pos rfl]
  | append_singleton later entry ih =>
    obtain ⟨other, w⟩ := entry
    rw [List.map_append, List.mem_append, not_or] at h
    have hne : column ≠ other := by simpa using h.2
    rw [← List.cons_append, ← List.append_assoc, ofList_concat, get?_insert, if_neg hne, ih h.1]

theorem get?_ofList_of_last {entries : List (String × SqlValue)} {i : Nat} {column : String}
    {v : SqlValue} (hentry : entries[i]? = some (column, v))
    (hlast : ∀ j, i < j → (entries.map Prod.fst)[j]? ≠ some column) :
    (ofList entries).get? column = some v := by
  obtain ⟨hi, hget⟩ := List.getElem?_eq_some_iff.1 hentry
  have hsplit : entries.take i ++ (column, v) :: entries.drop (i + 1) = entries := by
    rw [← hget, List.getElem_cons_drop, List.take_append_drop]
  have hlater : column ∉ (entries.drop (i + 1)).map Prod.fst := by
    intro hmem
    obtain ⟨j, hj⟩ := List.mem_iff_getElem?.1 hmem
    rw [List.map_drop, List.getElem?_drop] at hj
    exact hlast (i + 1 + j) (by omega) hj
  rw [← hsplit]
  exact get?_ofList_append_cons hlater _ v

end Row
end BoundQuery
