import BoundQuery.Proofs.Draining
import BoundQuery.Proofs.Release
import BoundQuery.Proofs.RowColumns

/-!
# Reading every row

A generic fetch comes to all rows of its script or to none: reading goes on
until the first read that waits, fails or finds no row, and only the last of
these ends it with rows. Each row is made of its own values alone, since making
a row empties the buffer for the next.
-/

namespace BoundQuery

namespace Scanner

theorem filledFrom_rows (columns : List String) {buffer : List SqlValue}
    (h : ∀ v ∈ buffer, v = .null) (rest : List (List SqlValue)) :
    (rows columns).filledFrom buffer rest = rest.map (overwrite buffer) := by
  induction rest with
  | nil => rfl
  | cons values rest ih =>
    have hrecycle : (rows columns).recycle (overwrite buffer values) = buffer := by
      rw [List.eq_replicate_of_mem h]
      simp [rows, length_overwrite, List.map_const']
    rw [filledFrom, hrecycle, ih, List.map_cons]

end Scanner

namespace Script

variable {s : Script}

/-- Whether reading every row comes to this read, which never finishes. Of a read that would wait
and fail it is said that it waits. -/
def PendsAt (s : Script) (k : Nat) : Prop :=
  s.pendAt = some k ∧ k ≤ s.rows.length ∧ ∀ f ∈ s.failAt, k ≤ f

/-- Whether a row is these values under the script's columns: each column once, where it first is,
with the value of its last place, which is null where the values have run out. -/
structure IsRowOf (s : Script) (values : List SqlValue) (row : Row) : Prop where
  columns : row.columns = s.columns.eraseDups
  value : ∀ (i : Nat) (column : String), s.columns[i]? = some column →
    (∀ j, i < j → s.columns[j]? ≠ some column) → row.get? column = some (values[i]?.getD .null)

/-- The row that a generic fetch makes of these values. -/
def scannedRow (s : Script) (values : List SqlValue) : Row :=
  .ofList (s.columns.zip (overwrite s.emptyBuffer values))

theorem length_emptyBuffer (s : Script) : s.emptyBuffer.length = s.columns.length :=
  List.length_map _

theorem getElem?_overwrite_emptyBuffer (s : Script) (values : List SqlValue) {i : Nat}
    (hi : i < s.columns.length) :
    (overwrite s.emptyBuffer values)[i]? = some (values[i]?.getD .null) := by
  simp [getElem?_overwrite, emptyBuffer, hi]

theorem isRowOf_scannedRow (s : Script) (values : List SqlValue) :
    s.IsRowOf values (s.scannedRow values) := by
  have hlength : (overwrite s.emptyBuffer values).length = s.columns.length := by
    rw [length_overwrite, length_emptyBuffer]
  have hcolumns : (s.columns.zip (overwrite s.emptyBuffer values)).map Prod.fst = s.columns :=
    List.map_fst_zip (Nat.le_of_eq hlength.symm)
  constructor
  · rw [scannedRow, Row.columns_ofList, hcolumns]
  · intro i column hcolumn hlast
    obtain ⟨hi, _⟩ := List.getElem?_eq_some_iff.1 hcolumn
    apply Row.get?_ofList_of_last (i := i)
    · rw [List.getElem?_zip_eq_some]
      exact ⟨hcolumn, s.getElem?_overwrite_emptyBuffer values hi⟩
    · rwa [hcolumns]

theorem PendsAt.undisturbed {k : Nat} (h : s.PendsAt k) : ∀ j < k, s.Undisturbed j := by
  obtain ⟨hpend, _, hfirst⟩ := h
  intro j hj
  constructor
  · rw [hpend]
    simpa using Nat.ne_of_gt hj
  · intro hfail
    have hle := hfirst j hfail
    omega

theorem pendAt_ne_of_failAt (hnever : ∀ k, ¬ s.PendsAt k) {f : Nat} (hfail : s.failAt = some f)
    (hf : f ≤ s.rows.length) : ∀ j ≤ f, s.pendAt ≠ some j := by
  intro j hj hpend
  refine hnever j ⟨hpend, Nat.le_trans hj hf, fun f' hfail' => ?_⟩
  cases hfail.symm.trans hfail'
  exact hj

theorem pendAt_ne_of_not_failsToScan (hnever : ∀ k, ¬ s.PendsAt k) (h : ¬ s.failsToScan) :
    ∀ j ≤ s.rows.length, s.pendAt ≠ some j := by
  intro j hj hpend
  refine hnever j ⟨hpend, hj, fun f hfail => ?_⟩
  by_contra hlt
  exact h ⟨f, hfail, by omega⟩

/-- A generic scan makes a row of each row before its last read, and ends by that read. -/
theorem drain_rows_of_stop {k : Nat} (hk : k ≤ s.rows.length)
    (hundisturbed : ∀ j < k, s.Undisturbed j)
    (hstop : s.pendAt = some k ∨ s.failAt = some k ∨ k = s.rows.length) :
    (s.drain (.rows s.columns)).value =
        (s.read k (s.rows.drop k)).ending ((s.rows.take k).map s.scannedRow) ∧
      (s.drain (.rows s.columns)).calls = List.replicate (k + 1) .next := by
  have hnull : ∀ v ∈ s.emptyBuffer, v = .null := by simp [emptyBuffer]
  have hcases := s.drainFrom_cases (.rows s.columns) s.rows 0 s.emptyBuffer
  rw [readOutFrom_rows_of_stop hk hundisturbed hstop, Scanner.filledFrom_rows s.columns hnull]
    at hcases
  obtain ⟨_, _, _, _, _, _, _, he, _⟩ | ⟨results, htakes, hend, hcalls⟩ := hcases
  · cases he
  · have hresults := Scanner.eq_map_of_forall₂_takes_rows htakes
    rw [List.map_map] at hresults
    rw [List.length_map, List.length_take_of_le hk] at hcalls
    rw [drain, hend, hresults]
    exact ⟨rfl, hcalls⟩

end Script

namespace ResultSet

variable {s : Script}

theorem fetchAll_of_stop {k : Nat} (hk : k ≤ s.rows.length)
    (hundisturbed : ∀ j < k, s.Undisturbed j)
    (hstop : s.pendAt = some k ∨ s.failAt = some k ∨ k = s.rows.length) :
    (ofScript s).fetchAll.value.1 =
        answerOf s ((s.read k (s.rows.drop k)).ending ((s.rows.take k).map s.scannedRow)) ∧
      (ofScript s).fetchAll.value.2.reads = k + 1 := by
  obtain ⟨hend, hcalls⟩ := Script.drain_rows_of_stop hk hundisturbed hstop
  rw [← hend]
  exact ⟨answer_fetch_of_cursor rfl fun s => s.drain (.rows s.columns), reads_fetch hcalls⟩

theorem fetchAll_of_failAt (hnever : ∀ k, ¬ s.PendsAt k) {f : Nat} (hfail : s.failAt = some f)
    (hf : f ≤ s.rows.length) :
    (ofScript s).fetchAll.value.1 = .answered (.error .scan) ∧
      (ofScript s).fetchAll.value.2.reads = f + 1 := by
  have hpend := Script.pendAt_ne_of_failAt hnever hfail hf
  have hundisturbed := Script.undisturbed_of_failAt hfail fun j hj => hpend j (Nat.le_of_lt hj)
  obtain ⟨hanswer, hreads⟩ := fetchAll_of_stop hf hundisturbed (.inr (.inl hfail))
  refine ⟨hanswer.trans ?_, hreads⟩
  simp [Script.read, hpend f (Nat.le_refl f), hfail, Read.ending, answerOf]

theorem fetchAll_of_not_failsToScan (hnever : ∀ k, ¬ s.PendsAt k) (h : ¬ s.failsToScan) :
    (ofScript s).fetchAll.value.1 =
        .answered (if s.failClose then .error .close else .ok (s.rows.map s.scannedRow)) ∧
      (ofScript s).fetchAll.value.2.reads = s.rows.length + 1 := by
  have hundisturbed :=
    Script.undisturbed_of_not_failsToScan h (Script.pendAt_ne_of_not_failsToScan hnever h)
  obtain ⟨hanswer, hreads⟩ := fetchAll_of_stop (Nat.le_refl s.rows.length)
    (fun j hj => hundisturbed j (Nat.le_of_lt hj)) (.inr (.inr rfl))
  obtain ⟨hpend, hfail⟩ := hundisturbed _ (Nat.le_refl _)
  refine ⟨hanswer.trans ?_, hreads⟩
  simp [Script.read, hpend, hfail, Read.ending, answerOf]

/-- A generic fetch comes to all rows or to none. A read that never finishes keeps it waiting, a
read that fails ends it with that error, and otherwise it reads once more than there are rows and
answers them in order, unless closing fails. -/
theorem fetchAll_whole_or_nothing (s : Script) :
    let fetched := (ofScript s).fetchAll.value
    (∀ k, s.PendsAt k → fetched.1 = .cancelled ∧ fetched.2.reads = k + 1) ∧
    ((∀ k, ¬ s.PendsAt k) →
      (∀ f ∈ s.failAt, f ≤ s.rows.length →
        fetched.1 = .answered (.error .scan) ∧ fetched.2.reads = f + 1) ∧
      (¬ s.failsToScan →
        fetched.2.reads = s.rows.length + 1 ∧
        ∃ rows, List.Forall₂ s.IsRowOf s.rows rows ∧
          fetched.1 = .answered (if s.failClose then .error .close else .ok rows))) := by
  intro fetched
  refine ⟨?_, fun hnever => ⟨?_, ?_⟩⟩
  · intro k hpends
    have hundisturbed := hpends.undisturbed
    obtain ⟨hpend, hk, _⟩ := hpends
    obtain ⟨hanswer, hreads⟩ := fetchAll_of_stop hk hundisturbed (.inl hpend)
    refine ⟨hanswer.trans ?_, hreads⟩
    simp [Script.read, hpend, Read.ending, answerOf]
  · exact fun f hfail hf => fetchAll_of_failAt hnever (Option.mem_def.1 hfail) hf
  · intro hreadable
    obtain ⟨hanswer, hreads⟩ := fetchAll_of_not_failsToScan hnever hreadable
    refine ⟨hreads, s.rows.map s.scannedRow, ?_, hanswer⟩
    rw [List.forall₂_map_right_iff, List.forall₂_same]
    exact fun values _ => s.isRowOf_scannedRow values

end ResultSet
end BoundQuery
