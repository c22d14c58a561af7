import BoundQuery.Proofs.Draining
import BoundQuery.Proofs.Release
import BoundQuery.Proofs.Routing

/-!
# Typed and generic fetching

A typed fetch comes to what a generic one comes to, with each row read by name
as its record: same rows, same last read, same close. The one way in which it
can end differently is a row that does not convert, and then it answers what
reading that row's columns by name would answer, and reads no further row.
-/

namespace BoundQuery

namespace ColumnPlan

variable {T : RecordType} (plan : ColumnPlan T) (columns : List String) (row : Row)

/-- Whether a row's columns, read by name, make this record. -/
structure IsRecordOf (r : Record T) : Prop where
  targeted : ∀ i column field, columns[i]? = some column → plan.target i = some field →
    row.getAs (T.fieldType field) column = .ok (r.field field)
  others : ∀ field, (∀ i, plan.target i ≠ some field) →
    r.field field = (T.fieldType field).default
  unmatched : r.rest = T.unmatched.ofEntries (plan.untargeted 0 row.entries)

/-- Whether this is the error of the first of a row's columns, read by name, that does not convert
to the type of its field. -/
def FirstRefusal (e : Error) : Prop :=
  ∃ i column field v, columns[i]? = some column ∧ plan.target i = some field ∧
    row.get? column = some v ∧ row.getAs (T.fieldType field) column = .error e ∧
    e = .cannotConvert column v.kind.name (T.fieldType field).name ∧
    ∀ j < i, ∀ column' field', columns[j]? = some column' → plan.target j = some field' →
      ∃ x, row.getAs (T.fieldType field') column' = .ok x

end ColumnPlan

namespace Script

variable {s : Script}

def rowOf (s : Script) (values : List SqlValue) : Row := .ofList (s.columns.zip values)

/-- Whether every row has one value for each column, and no column comes twice. -/
structure IsTable (s : Script) : Prop where
  distinct : s.columns.Nodup
  full : ∀ values ∈ s.rows, values.length = s.columns.length

/-- The rows that a generic fetch of this script makes before a read fails. -/
def rowsHandedOut (s : Script) : List Row := s.handedOut.map s.rowOf

/-- How a fetch of this script ends if each of its rows is fine. -/
def outcome (s : Script) : Except FetchError Unit :=
  if s.failsToScan then .error .scan else if s.failClose then .error .close else .ok ()

theorem mem_rows_of_mem_handedOut {values : List SqlValue} (h : values ∈ s.handedOut) :
    values ∈ s.rows := by
  unfold handedOut at h
  split at h
  · exact List.mem_of_mem_take h
  · exact h

namespace IsTable

variable {values : List SqlValue} {T : RecordType} {plan : ColumnPlan T} {r : Record T} {e : Error}
  {i : Nat} {column : String} {v : SqlValue}

theorem entries_rowOf (h : s.IsTable) (hvalues : values.length = s.columns.length) :
    (s.rowOf values).entries = s.columns.zip values := by
  apply Row.entries_ofList_of_nodup
  rw [List.map_fst_zip (Nat.le_of_eq hvalues.symm)]
  exact h.distinct

theorem get?_rowOf (h : s.IsTable) (hvalues : values.length = s.columns.length)
    (hentry : (s.columns.zip values)[i]? = some (column, v)) :
    (s.rowOf values).get? column = some v := by
  have hentries := h.entries_rowOf hvalues
  apply Row.get?_of_mem_entries
  · rw [← Row.map_fst_entries, hentries, List.map_fst_zip (Nat.le_of_eq hvalues.symm)]
    exact h.distinct
  · rw [hentries]
    exact List.mem_of_getElem? hentry

theorem exists_entry (hvalues : values.length = s.columns.length)
    (hcolumn : s.columns[i]? = some column) :
    ∃ v, (s.columns.zip values)[i]? = some (column, v) := by
  obtain ⟨hi, _⟩ := List.getElem?_eq_some_iff.1 hcolumn
  rw [← hvalues] at hi
  refine ⟨values[i], ?_⟩
  rw [List.getElem?_zip_eq_some]
  exact ⟨hcolumn, List.getElem?_eq_getElem hi⟩

theorem isRecordOf_of_fills (h : s.IsTable) (hvalues : values.length = s.columns.length)
    (hfills : plan.Fills 0 (s.columns.zip values) (.initial T) r) :
    plan.IsRecordOf s.columns (s.rowOf values) r := by
  constructor
  · intro i column field hcolumn htarget
    obtain ⟨v, hentry⟩ := exists_entry hvalues hcolumn
    rw [Row.getAs_of_get? (h.get?_rowOf hvalues hentry)]
    exact hfills.targeted i column v field hentry (by rwa [Nat.zero_add])
  · intro field hother
    exact hfills.others field fun j _ => hother (0 + j)
  · rw [hfills.rest_eq, h.entries_rowOf hvalues]

theorem firstRefusal_of_refuses (h : s.IsTable) (hvalues : values.length = s.columns.length)
    (hrefuses : plan.Refuses 0 (s.columns.zip values) e) :
    plan.FirstRefusal s.columns (s.rowOf values) e := by
  obtain ⟨i, column, v, field, hentry, htarget, he, hearlier⟩ := hrefuses
  have hget := h.get?_rowOf hvalues hentry
  refine ⟨i, column, field, v, (List.getElem?_zip_eq_some.1 hentry).1, by rwa [Nat.zero_add] at htarget,
    hget, ?_, ?_, ?_⟩
  · rw [Row.getAs_of_get? hget]
    exact he
  · exact ColumnType.eq_cannotConvert_of_decode he
  · intro j hj column' field' hcolumn' htarget'
    obtain ⟨v', hentry'⟩ := exists_entry hvalues hcolumn'
    rw [Row.getAs_of_get? (h.get?_rowOf hvalues hentry')]
    exact hearlier j hj column' v' field' hentry' (by rwa [Nat.zero_add])

/-- Decoding the values is reading the row by name, column after column. -/
theorem decode_cases (h : s.IsTable) (T : RecordType) (hvalues : values.length = s.columns.length) :
    let plan := ColumnPlan.ofColumns T s.columns
    (∃ r, (plan.decode s.columns values).value = .ok r ∧
      plan.IsRecordOf s.columns (s.rowOf values) r) ∨
    ∃ e, (plan.decode s.columns values).value = .error e ∧
      plan.FirstRefusal s.columns (s.rowOf values) e := by
  intro plan
  rcases ColumnPlan.decodeFrom_cases (ColumnPlan.separates_ofColumns T s.columns) 0
    (s.columns.zip values) (.initial T) with ⟨r, hr, hfills⟩ | ⟨e, he, hrefuses⟩
  · exact Or.inl ⟨r, hr, h.isRecordOf_of_fills hvalues hfills⟩
  · exact Or.inr ⟨e, he, h.firstRefusal_of_refuses hvalues hrefuses⟩

theorem isRecordOf_of_takes (h : s.IsTable) (hvalues : values.length = s.columns.length)
    (htakes : (Scanner.records T s.columns).Takes values r) :
    (ColumnPlan.ofColumns T s.columns).IsRecordOf s.columns (s.rowOf values) r := by
  rcases h.decode_cases T hvalues with ⟨r', hr', hrecord⟩ | ⟨e, he, _⟩
  · cases hr'.symm.trans htakes
    exact hrecord
  · cases he.symm.trans htakes

theorem firstRefusal_of_take (h : s.IsTable) (hvalues : values.length = s.columns.length)
    (htake : ((Scanner.records T s.columns).take values).value = .error e) :
    (ColumnPlan.ofColumns T s.columns).FirstRefusal s.columns (s.rowOf values) e := by
  rcases h.decode_cases T hvalues with ⟨r, hr, _⟩ | ⟨e', he', hrefusal⟩
  · cases hr.symm.trans htake
  · cases he'.symm.trans htake
    exact hrefusal

theorem forall₂_isRecordOf (h : s.IsTable) {rows : List (List SqlValue)} {records : List (Record T)}
    (hrows : ∀ values ∈ rows, values.length = s.columns.length)
    (htakes : List.Forall₂ (Scanner.records T s.columns).Takes rows records) :
    List.Forall₂ ((ColumnPlan.ofColumns T s.columns).IsRecordOf s.columns) (rows.map s.rowOf)
      records := by
  rw [List.forall₂_map_left_iff]
  refine ((List.forall₂_and_left _ _).2 ⟨hrows, htakes⟩).imp ?_
  rintro values r ⟨hvalues, htake⟩
  exact h.isRecordOf_of_takes hvalues htake

end IsTable

/-- The scan of a table without a waiting read fills its buffer with the rows themselves. -/
theorem drain_cases (h : s.IsTable) (hpend : s.pendAt = none) {α : Type} (scanner : Scanner α)
    (hrecycle : ∀ buffer, (scanner.recycle buffer).length = buffer.length) :
    EndsRefused scanner s.handedOut (s.drain scanner) ∨
      EndsRead scanner s.handedOut (if s.failsToScan then .failed else .exhausted)
        (s.drain scanner) := by
  have hfilled : scanner.filledFrom s.emptyBuffer s.handedOut = s.handedOut := by
    apply scanner.filledFrom_of_full hrecycle
    intro values hvalues
    rw [h.full values (mem_rows_of_mem_handedOut hvalues), emptyBuffer, List.length_map]
  have hcases := s.drainFrom_cases scanner s.rows 0 s.emptyBuffer
  rw [readOutFrom_rows hpend, hfilled] at hcases
  exact hcases

theorem drain_rows (h : s.IsTable) (hpend : s.pendAt = none) :
    (s.drain (.rows s.columns)).value =
        Read.ending s.rowsHandedOut (if s.failsToScan then .failed else .exhausted) ∧
      (s.drain (.rows s.columns)).calls = List.replicate (s.handedOut.length + 1) .next := by
  rcases drain_cases h hpend (.rows s.columns) fun buffer => List.length_map _ with
    ⟨_, _, _, _, _, _, _, he, _⟩ | ⟨results, htakes, hend, hcalls⟩
  · cases he
  · have hresults : results = s.rowsHandedOut := Scanner.eq_map_of_forall₂_takes_rows htakes
    rw [← hresults]
    exact ⟨hend, hcalls⟩

theorem answerOf_ending {α : Type} (results : α) :
    ResultSet.answerOf s (Read.ending results (if s.failsToScan then .failed else .exhausted)) =
      .answered (s.outcome.map fun _ => results) := by
  unfold outcome
  split
  · rfl
  · simp only [Read.ending, ResultSet.answerOf]
    split <;> rfl

end Script

namespace ResultSet

open Script (IsTable)

variable {s : Script}

/-- A typed fetch of a table answers as a generic one with each row read as its record, unless a
row that is handed out does not convert; then it answers the error of the first such row's first
such column and reads no further. -/
theorem fetchTyped_agrees_with_fetchAll (T : RecordType) (s : Script) (htable : s.IsTable)
    (hpend : s.pendAt = none) :
    let plan := ColumnPlan.ofColumns T s.columns
    let generic := (ofScript s).fetchAll.value
    let typed := ((ofScript s).fetchTyped T).value
    generic.1 = .answered (s.outcome.map fun _ => s.rowsHandedOut) ∧
    generic.2.reads = s.rowsHandedOut.length + 1 ∧
    ((∃ earlier row later records e, s.rowsHandedOut = earlier ++ row :: later ∧
        List.Forall₂ (plan.IsRecordOf s.columns) earlier records ∧
        plan.FirstRefusal s.columns row e ∧
        typed.1 = .answered (.error (.core e)) ∧ typed.2.reads = earlier.length + 1) ∨
      ∃ records, List.Forall₂ (plan.IsRecordOf s.columns) s.rowsHandedOut records ∧
        typed.1 = .answered (s.outcome.map fun _ => records) ∧
        typed.2.reads = generic.2.reads) := by
  intro plan generic typed
  obtain ⟨hrows, hcalls⟩ := Script.drain_rows htable hpend
  have hlength : s.rowsHandedOut.length = s.handedOut.length := List.length_map _
  have hgeneric : generic.1 = .answered (s.outcome.map fun _ => s.rowsHandedOut) := by
    rw [← Script.answerOf_ending, ← hrows]
    exact answer_fetch_of_cursor rfl fun s => s.drain (.rows s.columns)
  have hreads : generic.2.reads = s.rowsHandedOut.length + 1 := by
    rw [hlength]
    exact reads_fetch hcalls
  have hfull : ∀ values ∈ s.handedOut, values.length = s.columns.length :=
    fun values hvalues => htable.full values (Script.mem_rows_of_mem_handedOut hvalues)
  have htyped : typed.1 = answerOf s (s.drain (.records T s.columns)).value :=
    answer_fetch_of_cursor rfl fun s => s.drain (.records T s.columns)
  refine ⟨hgeneric, hreads, ?_⟩
  rcases Script.drain_cases htable hpend (.records T s.columns) fun _ => rfl with
    ⟨earlier, refused, later, records, e, hhanded, htakes, he, hend, hcalls⟩ |
      ⟨records, htakes, hend, hcalls⟩
  · rw [hhanded, List.forall_mem_append, List.forall_mem_cons] at hfull
    obtain ⟨hearlier, hrefused, _⟩ := hfull
    refine Or.inl ⟨earlier.map s.rowOf, s.rowOf refused, later.map s.rowOf, records, e, ?_,
      htable.forall₂_isRecordOf hearlier htakes, htable.firstRefusal_of_take hrefused he, ?_, ?_⟩
    · rw [Script.rowsHandedOut, hhanded, List.map_append, List.map_cons]
    · rw [htyped, hend]
      rfl
    · rw [List.length_map]
      exact reads_fetch hcalls
  · refine Or.inr ⟨records, htable.forall₂_isRecordOf hfull htakes, ?_, ?_⟩
    · rw [htyped, hend, Script.answerOf_ending]
    · rw [hreads, hlength]
      exact reads_fetch hcalls

/-- A scan that would fail later, and a failing close, do not get in the way of a refusal. -/
theorem fetchTyped_agrees_with_fetchAll_up_to_refusal :
    let T : RecordType := ⟨[⟨⟨"id", none⟩, .required .int64⟩,
      ⟨⟨"name", some "user_name"⟩, .nullable .string⟩], .collected "extra"⟩
    let s : Script := ⟨["ID", "user_name", "x"], [[.int8 1, .null, .bool true],
      [.text "?", .text "b", .null], [.null, .null, .null]], some 2, none, true⟩
    let plan := ColumnPlan.ofColumns T s.columns
    let typed := ((ofScript s).fetchTyped T).value
    s.IsTable ∧ s.pendAt = none ∧ (ofScript s).fetchAll.value.1 = .answered (.error .scan) ∧
    ∃ earlier row later records e, s.rowsHandedOut = earlier ++ row :: later ∧
      List.Forall₂ (plan.IsRecordOf s.columns) earlier records ∧
      plan.FirstRefusal s.columns row e ∧
      typed.1 = .answered (.error (.core e)) ∧ typed.2.reads = earlier.length + 1 := by
  intro T s plan typed
  have htable : s.IsTable := ⟨by decide, by decide⟩
  have hrefused : typed.1.ending = .failed (.core (.cannotConvert "ID" "TEXT" "i64")) := by
    decide +kernel
  obtain ⟨hgeneric, _, hends⟩ := fetchTyped_agrees_with_fetchAll T s htable rfl
  refine ⟨htable, rfl, hgeneric, ?_⟩
  rcases hends with hrefusal | ⟨records, _, hanswer, _⟩
  · exact hrefusal
  · have hscan : typed.1.ending = .failed .scan := by rw [hanswer]; rfl
    cases hrefused.symm.trans hscan

end ResultSet
end BoundQuery
