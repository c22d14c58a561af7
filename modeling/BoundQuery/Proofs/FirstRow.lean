import BoundQuery.Proofs.FullReads
import BoundQuery.Proofs.PoolRuns

/-!
# Reading the first row

Reading one row is one read, and says nothing of what comes after it: cursors that
start alike answer alike. So it answers the first row of a full read also where
that one would fail later. An engine is asked for one row in a way of its own; if
it steps through all rows in that order too, the cursor starts like the one over
all of them. So the same goes for a result over such an engine, and for the runs
that open a result only to read its first row.
-/

namespace BoundQuery

namespace Script

variable (s : Script)

/-- The same cursor with no read that waits or fails and a close that goes well. -/
def unfailing : Script := { s with failAt := none, pendAt := none, failClose := false }

/-- Whether two cursors cannot be told apart by one read and a close. -/
structure StartsAs (s s' : Script) : Prop where
  columns : s.columns = s'.columns
  row : s.rows.head? = s'.rows.head?
  pends : s.pendAt = some 0 ↔ s'.pendAt = some 0
  fails : s.failAt = some 0 ↔ s'.failAt = some 0
  failClose : s.failClose = s'.failClose

def firstEnd : ScanEnd Row :=
  if s.pendAt = some 0 then .pending
  else if s.failAt = some 0 then .failed .scan
  else .done ((s.rows.map s.scannedRow).headD .empty)

theorem first_eq : s.first = ⟨⟨s.firstEnd, []⟩, [.next]⟩ := by
  by_cases hpend : s.pendAt = some 0
  · simp only [first, firstEnd, next, read, hpend, if_true]
    rfl
  · by_cases hfail : s.failAt = some 0
    · simp only [first, firstEnd, next, read, hpend, hfail, if_true, if_false]
      rfl
    · cases hrows : s.rows <;>
        simp only [first, firstEnd, next, read, hpend, hfail, hrows, if_false] <;> rfl

theorem firstEnd_of_undisturbed {s : Script} (h : s.Undisturbed 0) :
    s.firstEnd = .done ((s.rows.map s.scannedRow).headD .empty) := by
  rw [firstEnd, if_neg h.1, if_neg h.2]

theorem StartsAs.firstEnd {s s' : Script} (h : s.StartsAs s') : s.firstEnd = s'.firstEnd := by
  have hscanned : s.scannedRow = s'.scannedRow := by
    funext values
    rw [scannedRow, scannedRow, emptyBuffer, emptyBuffer, h.columns]
  have hrow : (s.rows.map s.scannedRow).headD .empty = (s'.rows.map s'.scannedRow).headD .empty := by
    rw [List.headD_eq_head?_getD, List.headD_eq_head?_getD, List.head?_map, List.head?_map, h.row,
      hscanned]
  rw [Script.firstEnd, Script.firstEnd, hrow]
  simp only [h.pends, h.fails]

end Script

namespace ResultSet

variable {s s' : Script}

theorem fetch_congr {α : Type} {scan : Script → Metered (ScanEnd α)}
    (hcolumns : s.columns = s'.columns) (hclose : s.failClose = s'.failClose)
    (hscan : scan s = scan s') : (ofScript s).fetch scan = (ofScript s').fetch scan := by
  have hclosed : s.close = s'.close := by rw [Script.close, Script.close, hclose]
  have hrelease : Guard.release ⟨some s⟩ = Guard.release ⟨some s'⟩ := by
    simp only [Guard.release, hclosed]
  have hdrop : Guard.drop ⟨some s⟩ = Guard.drop ⟨some s'⟩ := by
    simp only [Guard.drop, hclosed]
  simp only [fetch, takeCursor, ofScript, hcolumns, hscan, hrelease, hdrop]

theorem fetchOne_eq_of_startsAs (h : s.StartsAs s') :
    (ofScript s).fetchOne = (ofScript s').fetchOne := by
  apply fetch_congr h.columns h.failClose
  rw [Script.first_eq, Script.first_eq, h.firstEnd]

theorem reads_fetchOne (s : Script) : (ofScript s).fetchOne.value.2.reads = 1 := by
  have hcalls : s.first.calls = List.replicate 1 .next := by
    rw [s.first_eq]
    rfl
  exact reads_fetch hcalls

theorem answer_fetchOne (s : Script) : (ofScript s).fetchOne.value.1 = answerOf s s.firstEnd := by
  have hvalue : s.first.value = s.firstEnd := by rw [s.first_eq]
  rw [← hvalue]
  exact answer_fetch_of_cursor rfl Script.first

theorem answer_fetchAll_of_never_pending (hpend : s.pendAt = none) :
    (ofScript s).fetchAll.value.1 = .answered
      (if s.failsToScan then .error .scan
        else if s.failClose then .error .close else .ok (s.rows.map s.scannedRow)) := by
  have hnever : ∀ k, ¬ s.PendsAt k := by
    rintro k ⟨hk, -⟩
    cases hpend.symm.trans hk
  by_cases hscan : s.failsToScan
  · obtain ⟨f, hfail, hf⟩ := hscan
    rw [(fetchAll_of_failAt hnever (Option.mem_def.1 hfail) hf).1, if_pos ⟨f, hfail, hf⟩]
  · rw [(fetchAll_of_not_failsToScan hnever hscan).1, if_neg hscan]

theorem answer_fetchAll_unfailing (s : Script) :
    (ofScript s.unfailing).fetchAll.value.1 = .answered (.ok (s.rows.map s.scannedRow)) := by
  have hreadable : ¬ s.unfailing.failsToScan := by
    rintro ⟨f, hfail, -⟩
    cases hfail
  rw [answer_fetchAll_of_never_pending rfl, if_neg hreadable]
  rfl

theorem answer_fetchOne_of_undisturbed (h : s.Undisturbed 0) (hclose : s.failClose = false) :
    (ofScript s).fetchOne.value.1 =
      .answered (.ok ((s.rows.map s.scannedRow).headD .empty)) := by
  rw [answer_fetchOne, Script.firstEnd_of_undisturbed h, answerOf, hclose]
  rfl

end ResultSet

/-- A cursor over the first item of a stream starts like the one over all of them. -/
theorem Cursor.startsAs_script_take_one {ρ : Type} [ColumnCodec ρ] (columns : List String)
    (items : List (Option (List ρ))) :
    (script columns (items.take 1)).StartsAs (script columns items) := by
  have hstart : (script columns (items.take 1)).rows.head? = (script columns items).rows.head? ∧
      ((script columns (items.take 1)).failAt = some 0 ↔
        (script columns items).failAt = some 0) := by
    cases items with
    | nil => exact ⟨rfl, Iff.rfl⟩
    | cons item items =>
      obtain ⟨hrow, -⟩ | hfails := nextRow_cases item (blankFor columns)
      · simp [script, readOut_cons_of_row _ hrow]
      · simp [script, readOut_cons_of_failure _ hfails]
  exact ⟨rfl, hstart.1, Iff.rfl, hstart.2, rfl⟩

section Opening

variable {π σ : Type} [Lending π]

theorem QueryResult.store_close (r : QueryResult) (p : Pool π σ) :
    (r.close p).2.store = p.store := by
  unfold close
  split <;> rfl

theorem Pool.exists_of_withCompiled {α : Type} {p p' : Pool π σ} {limit : Option Duration}
    {s : Statement} {action : CompiledStatement → Pool π σ → Logged (Except DbError α × Pool π σ)}
    {a : α} (h : (p.withCompiled limit s action).value = (.ok a, p')) :
    ∃ compiled lent, (action compiled lent).value.1 = .ok a := by
  cases hcompile : s.compile with
  | error e =>
    rw [p.withCompiled_of_error hcompile] at h
    cases h
  | ok compiled =>
    cases hlent : p.acquire limit with
    | ok lent =>
      rw [p.value_withCompiled_of_lent hcompile hlent] at h
      exact ⟨compiled, lent, congrArg Prod.fst h⟩
    | error e =>
      rw [p.withCompiled_of_refused hcompile hlent] at h
      cases h

theorem Pool.isClosed_of_opening {found : Finding σ} {compiled : CompiledStatement}
    {lent : Pool π σ} {r : QueryResult} (h : (opening found compiled lent).value.1 = .ok r) :
    r.isClosed = false := by
  unfold opening at h
  cases hcolumns : found lent.store compiled with
  | error e =>
    rw [hcolumns] at h
    cases h
  | ok columns =>
    rw [hcolumns] at h
    cases h
    rfl

end Opening

section Engines

variable {π σ : Type} [Lending π] [Engine σ]

namespace QueryResult

variable (r : QueryResult) (p : Pool π σ)

/-- The rows that the engine finds for the result. -/
def found : RowStream (Engine.Column σ) σ :=
  Engine.fetch p.store r.statement.sql (bindArgs r.statement.args)

/-- The cursor over all of them. -/
def script : Script := Cursor.script r.columns (r.found p).items

variable {r p}

/-- What reading the first row asks the engine for, and what it makes of the engine's answer. -/
theorem value_fetchOne_of_open (h : r.isClosed = false) :
    let sent := Engine.fetchOptional p.store r.statement.sql (bindArgs r.statement.args)
    (r.fetchOne p).value =
      ((ResultSet.ofScript
        (Cursor.script r.columns (RowStream.once sent.1))).fetchOne.value.1.toAnswer,
        r.close (p.withStore sent.2)) := by
  intro sent
  rw [fetchOne, value_fetch_of_open _ _ _ h, ResultSet.reads_fetchOne]
  rfl

theorem value_fetchAll_of_open (h : r.isClosed = false) :
    let read := (ResultSet.ofScript (r.script p)).fetchAll.value
    (r.fetchAll p).value =
      (read.1.toAnswer, r.close (p.withStore ((r.found p).after read.2.reads))) :=
  value_fetch_of_open _ _ _ h

/-- Whether these are the rows that the result has up to the first that cannot be read, and the
answer the first of them, unless that one cannot be read. The engine has then stepped to that row
and no further, where fetching every row fails by any of them. -/
structure ReadsFirst (r : QueryResult) (p : Pool π σ) (rows : List Row)
    (answer : Except DbError Row) (kept : σ) : Prop where
  unfailing : (ResultSet.ofScript (r.script p).unfailing).fetchAll.value.1 = .answered (.ok rows)
  all : (r.fetchAll p).value.1 = if (r.script p).failsToScan then .error .driver else .ok rows
  first : answer =
    if (r.script p).failAt = some 0 then .error .driver else .ok (rows.headD .empty)
  kept : kept = (r.found p).after 1

theorem answer_fetchAll_of_open (h : r.isClosed = false) :
    (r.fetchAll p).value.1 =
      if (r.script p).failsToScan then .error .driver
      else .ok ((r.script p).rows.map (r.script p).scannedRow) := by
  rw [value_fetchAll_of_open h, ResultSet.answer_fetchAll_of_never_pending rfl]
  by_cases hscan : (r.script p).failsToScan
  · rw [if_pos hscan, if_pos hscan]
    rfl
  · rw [if_neg hscan, if_neg hscan]
    rfl

theorem answer_fetchOne_of_open (hengine : Engine.StepsInOrder σ) (h : r.isClosed = false) :
    (r.fetchOne p).value.1 =
      if (r.script p).failAt = some 0 then .error .driver
      else .ok (((r.script p).rows.map (r.script p).scannedRow).headD .empty) := by
  have hstarts : (Cursor.script r.columns (RowStream.once (Engine.fetchOptional p.store
      r.statement.sql (bindArgs r.statement.args)).1)).StartsAs (r.script p) := by
    rw [hengine.row]
    exact Cursor.startsAs_script_take_one r.columns (r.found p).items
  rw [value_fetchOne_of_open h, ResultSet.fetchOne_eq_of_startsAs hstarts,
    ResultSet.answer_fetchOne]
  have hpend : (r.script p).pendAt ≠ some 0 := Cursor.not_pends _ _ 0
  by_cases hfail : (r.script p).failAt = some 0
  · have hend : (r.script p).firstEnd = .failed .scan := by
      rw [Script.firstEnd, if_neg hpend, if_pos hfail]
    rw [hend, if_pos hfail]
    rfl
  · rw [Script.firstEnd_of_undisturbed ⟨hpend, hfail⟩, if_neg hfail]
    rfl

theorem readsFirst_of_open (hengine : Engine.StepsInOrder σ) (h : r.isClosed = false) :
    r.ReadsFirst p ((r.script p).rows.map (r.script p).scannedRow) (r.fetchOne p).value.1
      (r.fetchOne p).value.2.2.store where
  unfailing := ResultSet.answer_fetchAll_unfailing _
  all := answer_fetchAll_of_open h
  first := answer_fetchOne_of_open hengine h
  kept := by
    rw [value_fetchOne_of_open h, store_close, Pool.store_withStore]
    exact hengine.kept ..

end QueryResult

/-- Whether asking for one row opens the same result as querying and answers the first row of it.
Where none is opened, the answer says why not, in the same words. -/
structure Runs.ReadsFirst (runs : Runs π σ) : Prop where
  opened : ∀ r p, runs.query.value = (.ok r, p) →
    ∃ rows answer p', runs.queryRow.value = (answer, p') ∧ r.ReadsFirst p rows answer p'.store
  refused : ∀ e p, runs.query.value = (.error e, p) → runs.queryRow.value = (.error e, p)

theorem Runs.readsFirst_of_fetchOpened (hengine : Engine.StepsInOrder σ) {runs : Runs π σ}
    (hqueryRow : runs.queryRow.value = (Pool.fetchOpened runs.query.value).value)
    (hopen : ∀ r p, runs.query.value = (.ok r, p) → r.isClosed = false) :
    runs.ReadsFirst where
  opened r p h := by
    refine ⟨_, _, _, ?_, QueryResult.readsFirst_of_open hengine (hopen r p h)⟩
    rw [hqueryRow, h]
    rfl
  refused e p h := by
    rw [hqueryRow, h]
    rfl

theorem Pool.readsFirst_runs (hengine : Engine.StepsInOrder σ) (p : Pool π σ)
    (limit : Option Duration) (s : Statement) (found : Finding σ) :
    (p.runs limit s found).ReadsFirst := by
  apply Runs.readsFirst_of_fetchOpened hengine rfl
  intro r p' h
  obtain ⟨compiled, lent, hopening⟩ := Pool.exists_of_withCompiled h
  exact Pool.isClosed_of_opening hopening

omit [Lending π] in
theorem Transaction.isClosed_of_query (t : Transaction σ) {s : Statement} {p : Pool π σ}
    {r : QueryResult} (h : (t.query s p).value.1 = .ok r) : r.isClosed = false := by
  cases hcompile : s.compile with
  | error e =>
    rw [query, Statement.compileLogged_of_error hcompile] at h
    cases h
  | ok compiled =>
    rw [query, Statement.compileLogged_of_ok hcompile, Logged.value_bind] at h
    dsimp only at h
    cases hdescribe : Driver.describe p.store compiled.sql with
    | error e =>
      rw [hdescribe] at h
      cases h
    | ok columns =>
      rw [hdescribe] at h
      cases h
      rfl

theorem Transaction.readsFirst_runs (hengine : Engine.StepsInOrder σ) (t : Transaction σ)
    (s : Statement) (p : Pool π σ) : (t.runs s p).ReadsFirst := by
  apply Runs.readsFirst_of_fetchOpened hengine rfl
  intro r p' h
  exact t.isClosed_of_query (congrArg Prod.fst h)

/-- Reading one row is one read, which nothing behind the first row has an effect on, and answers
the first of the rows that a full read without failures answers. On an engine that steps through the
rows in one order a result and the runs of every place answer that row too, whichever later row
fails. -/
theorem first_row_is_head_of_full_read (hengine : Engine.StepsInOrder σ) :
    (∀ s : Script,
      (ResultSet.ofScript s).fetchOne.value.2.reads = 1 ∧
      (∀ s', s.StartsAs s' → (ResultSet.ofScript s).fetchOne = (ResultSet.ofScript s').fetchOne) ∧
      ∃ rows, (ResultSet.ofScript s.unfailing).fetchAll.value.1 = .answered (.ok rows) ∧
        (s.Undisturbed 0 → s.failClose = false →
          (ResultSet.ofScript s).fetchOne.value.1 = .answered (.ok (rows.headD .empty)))) ∧
    (∀ (r : QueryResult) (p : Pool π σ), r.isClosed = false →
      ∃ rows, r.ReadsFirst p rows (r.fetchOne p).value.1 (r.fetchOne p).value.2.2.store) ∧
    (∀ (db : Database π σ) (s : Statement), (db.runs s).ReadsFirst) ∧
    (∀ (ps : PreparedStatement) (p : Pool π σ), (ps.runs p).ReadsFirst) ∧
    ∀ (t : Transaction σ) (s : Statement) (p : Pool π σ), (t.runs s p).ReadsFirst := by
  refine ⟨fun s => ⟨ResultSet.reads_fetchOne s, fun s' h => ResultSet.fetchOne_eq_of_startsAs h,
    _, ResultSet.answer_fetchAll_unfailing s, ResultSet.answer_fetchOne_of_undisturbed⟩,
    fun r p h => ⟨_, QueryResult.readsFirst_of_open hengine h⟩, ?_, ?_,
    Transaction.readsFirst_runs hengine⟩
  · intro db s
    rw [db.runs_eq_pool_runs]
    exact db.pool.readsFirst_runs hengine _ _ _
  · intro ps p
    rw [ps.runs_eq_pool_runs]
    exact p.readsFirst_runs hengine _ _ _

/-- The second row of a query overflows. -/
theorem first_row_is_head_of_full_read_before_overflow :
    let p : Pool := ⟨⟨[(1, .text "a"), (2, .text "b")], 2, 1⟩, { Lender.opened with inUse := true }⟩
    let sql := "SELECT " ++ Command.guardBefore ++ " 2 " ++ Command.guardAfter ++ " FROM kv ORDER BY k"
    let r : QueryResult := ⟨⟨⟨sql, [], []⟩, sql, []⟩, ["v"], some .pooled⟩
    Engine.StepsInOrder Store ∧ (r.script p).failAt = some 1 ∧
    ∃ rows, r.ReadsFirst p rows (r.fetchOne p).value.1 (r.fetchOne p).value.2.2.store := by
  intro p sql r
  have hopen : r.isClosed = false := rfl
  exact ⟨Store.stepsInOrder, by decide +kernel,
    (first_row_is_head_of_full_read Store.stepsInOrder).2.1 r p hopen⟩

end Engines

end BoundQuery
