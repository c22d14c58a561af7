import BoundQuery.Error
import BoundQuery.Json.Basic
import BoundQuery.SqlValue.Json
import BoundQuery.SqlValue.Reading

/-!
# Rows

A row maps column names to values, in the order in which the columns first came.
A column that comes again keeps its place and takes the later value. Typed
access tells a column that is not there from a value that the type refuses.
-/

namespace BoundQuery

/-- Column names and, place by place, their values. -/
@[ext]
structure Row where
  columns : List String
  values : List SqlValue
  length_values : values.length = columns.length
  deriving DecidableEq

namespace ColumnType

/-- Reads a column's value, naming the column when the type refuses it. -/
def decode (t : ColumnType) (column : String) (v : SqlValue) : Except Error t.Carrier :=
  match t.read? v with
  | some x => .ok x
  | none => .error (.cannotConvert column v.kind.name t.name)

theorem decode_eq_ok_iff {t : ColumnType} {column : String} {v : SqlValue} {x : t.Carrier} :
    t.decode column v = .ok x ↔ t.read? v = some x := by
  unfold decode
  split <;> simp_all

theorem decode_eq_error_iff {t : ColumnType} {column : String} {v : SqlValue} {e : Error} :
    t.decode column v = .error e ↔ t.read? v = none ∧ e = .cannotConvert column v.kind.name t.name := by
  unfold decode
  split
  · simp_all
  · simp_all [eq_comm]

theorem eq_cannotConvert_of_decode {t : ColumnType} {column : String} {v : SqlValue} {e : Error}
    (h : t.decode column v = .error e) : e = .cannotConvert column v.kind.name t.name :=
  (decode_eq_error_iff.1 h).2

end ColumnType

namespace Row

def empty : Row := ⟨[], [], rfl⟩

def insert (r : Row) (column : String) (v : SqlValue) : Row :=
  match r.columns.idxOf? column with
  | some i => ⟨r.columns, r.values.set i v, by rw [List.length_set, r.length_values]⟩
  | none => ⟨r.columns ++ [column], r.values ++ [v], by simp [r.length_values]⟩

def ofList (entries : List (String × SqlValue)) : Row :=
  entries.foldl (fun r entry => r.insert entry.1 entry.2) empty

variable (r : Row)

def size : Nat := r.columns.length

def isEmpty : Bool := r.columns.isEmpty

def entries : List (String × SqlValue) := r.columns.zip r.values

def get? (column : String) : Option SqlValue :=
  (r.columns.idxOf? column).bind fun i => r.values[i]?

def value (column : String) : Except Error SqlValue :=
  match r.get? column with
  | some v => .ok v
  | none => .error (.columnNotFound column)

def isNull (column : String) : Except Error Bool := (r.value column).map SqlValue.isNull

/-- Reads a column as a type, naming the column when the type refuses its value. -/
def getAs (t : ColumnType) (column : String) : Except Error t.Carrier := do
  let v ← r.value column
  match t.read? v with
  | some x => .ok x
  | none => .error (.cannotConvert column v.kind.name t.name)

def json : Json := .ofMembers (r.entries.map fun entry => (entry.1, entry.2.json))

/-- Equality of rows: the same columns in the same order, with equal values. -/
def equal (r s : Row) : Bool :=
  r.columns == s.columns && (r.values.zip s.values).all fun pair => pair.1.equal pair.2

section Insert

variable {r} {column : String}

theorem insert_of_idxOf? {i : Nat} (h : r.columns.idxOf? column = some i) (v : SqlValue) :
    (r.insert column v).columns = r.columns ∧ (r.insert column v).values = r.values.set i v := by
  unfold insert
  split
  · next j hj =>
    cases h.symm.trans hj
    exact ⟨rfl, rfl⟩
  · next hnone => cases h.symm.trans hnone

theorem insert_of_notMem (h : column ∉ r.columns) (v : SqlValue) :
    (r.insert column v).columns = r.columns ++ [column] ∧
      (r.insert column v).values = r.values ++ [v] := by
  unfold insert
  split
  · next i hi => cases hi.symm.trans (List.idxOf?_eq_none_iff.2 h)
  · exact ⟨rfl, rfl⟩

theorem columns_insert (v : SqlValue) : (r.insert column v).columns =
    if column ∈ r.columns then r.columns else r.columns ++ [column] := by
  split
  · next hmem =>
    obtain ⟨i, hi⟩ := Option.isSome_iff_exists.1 (List.isSome_idxOf?.2 hmem)
    exact (insert_of_idxOf? hi v).1
  · next hnot => exact (insert_of_notMem hnot v).1

theorem entries_insert_of_notMem (h : column ∉ r.columns) (v : SqlValue) :
    (r.insert column v).entries = r.entries ++ [(column, v)] := by
  obtain ⟨hcolumns, hvalues⟩ := insert_of_notMem h v
  rw [entries, hcolumns, hvalues, List.zip_append r.length_values.symm]
  rfl

end Insert

section Lookup

variable {r} {column c : String} {v : SqlValue}

theorem get?_eq_some_iff : r.get? c = some v ↔
    ∃ i, r.columns.idxOf? c = some i ∧ r.values[i]? = some v := Option.bind_eq_some_iff

theorem get?_eq_none_iff : r.get? c = none ↔ c ∉ r.columns := by
  rw [← List.idxOf?_eq_none_iff, get?]
  cases hidx : r.columns.idxOf? c with
  | none => simp
  | some i =>
    obtain ⟨hi, _⟩ := List.idxOf?_eq_some_iff.1 hidx
    rw [← r.length_values] at hi
    simp [hi]

theorem getElem?_of_idxOf? {l : List String} {i : Nat} (h : l.idxOf? c = some i) :
    l[i]? = some c := by
  obtain ⟨hi, hget, _⟩ := List.idxOf?_eq_some_iff.1 h
  exact List.getElem?_eq_some_iff.2 ⟨hi, hget⟩

theorem idxOf?_append_singleton {l : List String} (h : column ∉ l) :
    (l ++ [column]).idxOf? c = if c = column then some l.length else l.idxOf? c := by
  rw [List.idxOf?, List.findIdx?_append, ← List.idxOf?]
  by_cases hc : c = column
  · subst hc
    rw [List.idxOf?_eq_none_iff.2 h]
    simp
  · have hne : column ≠ c := Ne.symm hc
    simp [hc, hne]

theorem get?_insert (column c : String) (v : SqlValue) :
    (r.insert column v).get? c = if c = column then some v else r.get? c := by
  by_cases hmem : column ∈ r.columns
  · obtain ⟨i, hi⟩ := Option.isSome_iff_exists.1 (List.isSome_idxOf?.2 hmem)
    obtain ⟨hcolumns, hvalues⟩ := insert_of_idxOf? hi v
    rw [get?, hcolumns, hvalues]
    split
    · next heq =>
      subst heq
      obtain ⟨hlt, _⟩ := List.idxOf?_eq_some_iff.1 hi
      rw [← r.length_values] at hlt
      rw [hi, Option.bind_some, List.getElem?_set_self hlt]
    · next hne =>
      rw [get?]
      refine Option.bind_congr fun j hj => ?_
      have hij : i ≠ j := by
        rintro rfl
        exact hne (Option.some.inj ((getElem?_of_idxOf? hj).symm.trans (getElem?_of_idxOf? hi)))
      exact List.getElem?_set_ne hij
  · obtain ⟨hcolumns, hvalues⟩ := insert_of_notMem hmem v
    rw [get?, hcolumns, hvalues, idxOf?_append_singleton hmem]
    split
    · rw [Option.bind_some, ← r.length_values, List.getElem?_concat_length]
    · rw [get?]
      refine Option.bind_congr fun j hj => ?_
      obtain ⟨hlt, _⟩ := List.idxOf?_eq_some_iff.1 hj
      rw [← r.length_values] at hlt
      exact List.getElem?_append_left hlt

end Lookup

theorem entries_ofList_of_nodup {entries : List (String × SqlValue)}
    (h : (entries.map Prod.fst).Nodup) : (ofList entries).entries = entries := by
  have hfold : ∀ (later : List (String × SqlValue)) (r : Row),
      (r.columns ++ later.map Prod.fst).Nodup →
        (later.foldl (fun r entry => r.insert entry.1 entry.2) r).entries = r.entries ++ later := by
    intro later
    induction later with
    | nil => exact fun r _ => (List.append_nil _).symm
    | cons entry later ih =>
      intro r hnodup
      have hnew : entry.1 ∉ r.columns := by
        intro hmem
        exact (List.nodup_append.1 hnodup).2.2 _ hmem _ List.mem_cons_self rfl
      rw [List.foldl_cons, ih, entries_insert_of_notMem hnew, List.append_assoc,
        List.singleton_append]
      rwa [(insert_of_notMem hnew _).1, List.append_assoc]
  exact hfold entries empty h

theorem map_fst_entries : r.entries.map Prod.fst = r.columns :=
  List.map_fst_zip (Nat.le_of_eq r.length_values.symm)

theorem map_snd_entries : r.entries.map Prod.snd = r.values :=
  List.map_snd_zip (Nat.le_of_eq r.length_values)

theorem get?_of_mem_entries {r : Row} (hnodup : r.columns.Nodup) {column : String} {v : SqlValue}
    (h : (column, v) ∈ r.entries) : r.get? column = some v := by
  obtain ⟨i, hi⟩ := List.mem_iff_getElem?.1 h
  obtain ⟨hcolumn, hvalue⟩ := List.getElem?_zip_eq_some.1 hi
  obtain ⟨hlt, hget⟩ := List.getElem?_eq_some_iff.1 hcolumn
  refine get?_eq_some_iff.2 ⟨i, List.idxOf?_eq_some_iff.2 ⟨hlt, hget, ?_⟩, hvalue⟩
  intro j hj heq
  exact List.pairwise_iff_getElem.1 hnodup j i (Nat.lt_trans hj hlt) hlt hj (heq.trans hget.symm)

theorem getAs_of_get? {r : Row} {column : String} {v : SqlValue} (h : r.get? column = some v)
    (t : ColumnType) : r.getAs t column = t.decode column v := by
  unfold getAs value
  rw [h]
  rfl

end Row
end BoundQuery
