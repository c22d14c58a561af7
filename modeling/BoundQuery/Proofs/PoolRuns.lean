import BoundQuery.Database.Client

/-!
# Runs on the pool

The database and a prepared statement run a statement in the same steps: they
compile it, ask the pool for the connection, and execute it or open a result over
the columns that they find for it. So their runs differ only in the limit on
waiting and in how the columns are found, and what a run comes to is read off
the compilation, the pool and the engine.
-/

namespace BoundQuery

open Session (Answer)

variable {π σ : Type} {s : Statement} {compiled : CompiledStatement}

namespace Statement

theorem compileLogged_of_error {e : Error} (h : s.compile = .error e) :
    s.compileLogged = pure (.error e) := by
  rw [compileLogged, h]

theorem compileLogged_of_ok (h : s.compile = .ok compiled) :
    s.compileLogged = ⟨.ok compiled, [.compiled compiled.sql compiled.args.length]⟩ := by
  rw [compileLogged, h]
  rfl

end Statement

def Outcome.failing (e : DbError) (p : Pool π σ) : Outcome π σ := ⟨.failed e, none, p⟩

theorem Runs.perform_of_failed {runs : Runs π σ} {e : DbError} {p : Pool π σ} {events : List Event}
    (hexec : runs.exec = ⟨(.error e, p), events⟩)
    (hquery : runs.query = ⟨(.error e, p), events⟩)
    (hqueryRow : runs.queryRow = ⟨(.error e, p), events⟩) (verb : Verb) :
    runs.perform verb = ⟨.failing e p, events⟩ := by
  have hevents : events ++ [] = events := List.append_nil events
  cases verb with
  | exec => rw [perform, hexec]; exact Logged.ext rfl hevents
  | query => rw [perform, hquery]; exact Logged.ext rfl hevents
  | queryRow => rw [perform, hqueryRow]; exact Logged.ext rfl hevents

/-- Whether an answer says that the wait for the connection was too long. -/
def Session.Answer.IsRefusal : Answer → Prop
  | .busy => True
  | .failed (.timeout _) => True
  | _ => False

section Compiled

variable [Lending π] (p : Pool π σ) {α : Type} {limit : Option Duration}
  {action action' : CompiledStatement → Pool π σ → Logged (Except DbError α × Pool π σ)}

namespace Pool

theorem withCompiled_of_error {e : Error} (h : s.compile = .error e) :
    p.withCompiled limit s action = pure (.error (.core e), p) := by
  rw [withCompiled, Statement.compileLogged_of_error h]
  rfl

theorem withCompiled_of_refused {e : DbError} (h : s.compile = .ok compiled)
    (hrefused : p.acquire limit = .error e) :
    p.withCompiled limit s action =
      ⟨(.error e, p), [.compiled compiled.sql compiled.args.length]⟩ := by
  rw [withCompiled, Statement.compileLogged_of_ok h]
  simp only [bind, withConnection, hrefused]
  rfl

theorem value_withCompiled_of_lent {lent : Pool π σ} (h : s.compile = .ok compiled)
    (hlent : p.acquire limit = .ok lent) :
    (p.withCompiled limit s action).value = (action compiled lent).value := by
  rw [withCompiled, Statement.compileLogged_of_ok h]
  simp only [bind, withConnection, hlent]

theorem withCompiled_congr (h : ∀ compiled lent, s.compile = .ok compiled →
    p.acquire limit = .ok lent → action compiled lent = action' compiled lent) :
    p.withCompiled limit s action = p.withCompiled limit s action' := by
  cases hcompile : s.compile with
  | error e => rw [p.withCompiled_of_error hcompile, p.withCompiled_of_error hcompile]
  | ok compiled =>
    rw [withCompiled, withCompiled, Statement.compileLogged_of_ok hcompile]
    cases hlent : p.acquire limit with
    | error e => simp only [bind, withConnection, hlent]
    | ok lent => simp only [bind, withConnection, hlent, h compiled lent hcompile hlent]

end Pool

end Compiled

/-- How the columns are found that a compiled statement yields on a connection. -/
abbrev Finding (σ : Type) := σ → CompiledStatement → Except DbError (List String)

section Running

variable [Lending π]

namespace Pool

/-- Opens a result over the columns found for a statement, or says why there are none. -/
def opening (found : Finding σ) (compiled : CompiledStatement) (lent : Pool π σ) :
    Logged (Except DbError QueryResult × Pool π σ) :=
  match found lent.store compiled with
  | .error e => pure (.error e, lent.released)
  | .ok columns => pure (lent.hold compiled columns)

variable [Engine σ] (p : Pool π σ) {limit : Option Duration} {found found' : Finding σ}

/-- The runs of a statement on the pool, by the limit on waiting and the columns found for it. -/
def runs (limit : Option Duration) (s : Statement) (found : Finding σ) : Runs π σ where
  exec := p.withCompiled limit s fun compiled lent => lent.executeOnce compiled
  query := p.withCompiled limit s (opening found)
  queryRow := do fetchOpened (← p.withCompiled limit s (opening found))

theorem perform_runs_of_error {e : Error} (h : s.compile = .error e) (verb : Verb) :
    (p.runs limit s found).perform verb = pure (.failing (.core e) p) := by
  have hqueryRow : (p.runs limit s found).queryRow = pure (.error (.core e), p) := by
    change (p.withCompiled limit s (opening found) >>= fetchOpened) = _
    rw [p.withCompiled_of_error h]
    rfl
  exact Runs.perform_of_failed (p.withCompiled_of_error h) (p.withCompiled_of_error h) hqueryRow verb

theorem perform_runs_of_refused {e : DbError} (h : s.compile = .ok compiled)
    (hrefused : p.acquire limit = .error e) (verb : Verb) :
    (p.runs limit s found).perform verb =
      ⟨.failing e p, [.compiled compiled.sql compiled.args.length]⟩ := by
  have hqueryRow : (p.runs limit s found).queryRow =
      ⟨(.error e, p), [.compiled compiled.sql compiled.args.length]⟩ := by
    change (p.withCompiled limit s (opening found) >>= fetchOpened) = _
    rw [p.withCompiled_of_refused h hrefused]
    rfl
  exact Runs.perform_of_failed (p.withCompiled_of_refused h hrefused)
    (p.withCompiled_of_refused h hrefused) hqueryRow verb

theorem runs_congr (h : ∀ compiled, s.compile = .ok compiled →
    found p.store compiled = found' p.store compiled) :
    p.runs limit s found = p.runs limit s found' := by
  have hopening : p.withCompiled limit s (opening found) =
      p.withCompiled limit s (opening found') := by
    apply withCompiled_congr
    intro compiled lent hcompile hlent
    rw [opening, opening, store_of_acquire p hlent, h compiled hcompile]
  rw [runs, runs, hopening]

/-- What a compiled statement comes to with the connection at hand, by the verb: an execution and a
row give the connection back, and an opened result keeps it. -/
def served (lent : Pool π σ) (found : Finding σ) (compiled : CompiledStatement) : Verb → Outcome π σ
  | .exec =>
    let done := (Driver.execute lent.store compiled).value
    ⟨.ofExcept .executed done.1, none, (lent.withStore done.2).released⟩
  | .query =>
    match found lent.store compiled with
    | .error e => .failing e lent.released
    | .ok columns => ⟨.done, some ⟨compiled, columns, some .pooled⟩, lent⟩
  | .queryRow =>
    match found lent.store compiled with
    | .error e => .failing e lent.released
    | .ok columns =>
      let fetched := (QueryResult.fetchOne ⟨compiled, columns, some .pooled⟩ lent).value
      ⟨.ofExcept .row fetched.1, none, fetched.2.2⟩

theorem value_perform_runs_of_lent {lent : Pool π σ} (h : s.compile = .ok compiled)
    (hlent : p.acquire limit = .ok lent) (verb : Verb) :
    ((p.runs limit s found).perform verb).value = lent.served found compiled verb := by
  cases verb with
  | exec =>
    simp only [Runs.perform, runs, Logged.value_bind, Logged.value_pure,
      p.value_withCompiled_of_lent h hlent]
    rfl
  | query =>
    simp only [Runs.perform, runs, Logged.value_bind, Logged.value_pure,
      p.value_withCompiled_of_lent h hlent, opening, served]
    cases found lent.store compiled <;> rfl
  | queryRow =>
    simp only [Runs.perform, runs, Logged.value_bind, Logged.value_pure,
      p.value_withCompiled_of_lent h hlent, opening, served]
    cases found lent.store compiled <;> rfl

/-- A run fails and leaves the pool alone, or comes to what the statement comes to with the
connection. -/
theorem value_perform_runs_cases (limit : Option Duration) (s : Statement) (found : Finding σ)
    (verb : Verb) :
    (∃ e, ((p.runs limit s found).perform verb).value = .failing e p) ∨
      ∃ compiled lent, p.acquire limit = .ok lent ∧
        ((p.runs limit s found).perform verb).value = lent.served found compiled verb := by
  cases hcompile : s.compile with
  | error e => exact .inl ⟨.core e, by rw [p.perform_runs_of_error hcompile, Logged.value_pure]⟩
  | ok compiled =>
    cases hlent : p.acquire limit with
    | error e => exact .inl ⟨e, by rw [p.perform_runs_of_refused hcompile hlent]⟩
    | ok lent =>
      exact .inr ⟨compiled, lent, rfl, p.value_perform_runs_of_lent hcompile hlent verb⟩

end Pool

end Running

section Fetches

theorem Fetched.toAnswer_ne_timeout {α : Type} (f : Fetched α) (limit : Duration) :
    f.toAnswer ≠ .error (.timeout limit) := by
  unfold toAnswer
  split <;> simp

namespace QueryResult

variable {r : QueryResult} [Lending π]

theorem close_of_isClosed (h : r.isClosed = true) (p : Pool π σ) : r.close p = (r, p) := by
  obtain ⟨statement, columns, handle⟩ := r
  obtain rfl : handle = none := Option.isNone_iff_eq_none.1 h
  rfl

variable [Engine σ] {α : Type}
  (stream : σ → CompiledStatement → Logged (RowStream (Engine.Column σ) σ))
  (read : ResultSet → Logged (Fetched α × ResultSet)) (p : Pool π σ)

theorem fetch_of_isClosed (h : r.isClosed = true) :
    r.fetch stream read p = pure (.error (.core .resultClosed), r, p) := by
  rw [fetch, if_pos h]

/-- What a fetch reads: the rows that the stream for the statement hands out, through a result set
over the columns of the result. -/
theorem value_fetch_of_open (h : r.isClosed = false) :
    let rows := (stream p.store r.statement).value
    let fetched := (read (.ofScript (Cursor.script r.columns rows.items))).value
    (r.fetch stream read p).value =
      (fetched.1.toAnswer, r.close (p.withStore (rows.after fetched.2.reads))) := by
  rw [fetch, h]
  rfl

/-- A fetch gives up the handle, whatever the engine and the reading make of it. -/
theorem value_fetch (r : QueryResult) :
    ∃ answer store, (r.fetch stream read p).value = (answer, r.close (p.withStore store)) ∧
      ∀ limit, answer ≠ .error (.timeout limit) := by
  cases h : r.isClosed with
  | true =>
    have hvalue : (r.fetch stream read p).value =
        (.error (.core .resultClosed), r.close (p.withStore p.store)) := by
      rw [fetch_of_isClosed stream read p h, close_of_isClosed h]
      rfl
    exact ⟨_, _, hvalue, by simp⟩
  | false => exact ⟨_, _, value_fetch_of_open stream read p h, Fetched.toAnswer_ne_timeout _⟩

end QueryResult
end Fetches

namespace Session.Answer

theorem not_isRefusal_ofExcept {α : Type} {f : α → Answer} {result : Except DbError α}
    (hf : ∀ a, ¬ (f a).IsRefusal) (h : ∀ limit, result ≠ .error (.timeout limit)) :
    ¬ (ofExcept f result).IsRefusal := by
  cases result with
  | ok a => exact hf a
  | error e =>
    cases e with
    | timeout limit => exact absurd rfl (h limit)
    | _ => exact id

theorem ofExcept_ne_done {α : Type} {f : α → Answer} (hf : ∀ a, f a ≠ .done)
    (result : Except DbError α) : ofExcept f result ≠ .done := by
  cases result with
  | ok a => exact hf a
  | error e => simp [ofExcept]

end Session.Answer

namespace Driver

variable [Engine σ] (store : σ)

/-- What an execution sends to the engine, and what it makes of the engine's answer. -/
theorem value_execute (compiled : CompiledStatement) :
    (execute store compiled).value =
      (ExecResult.ofEngine compiled
        (Engine.execute store compiled.sql (bindArgs compiled.args)).1,
      (Engine.execute store compiled.sql (bindArgs compiled.args)).2) := rfl

theorem execute_ne_timeout (compiled : CompiledStatement) (limit : Duration) :
    (execute store compiled).value.1 ≠ .error (.timeout limit) := by
  rw [value_execute]
  unfold ExecResult.ofEngine
  split <;> simp

theorem describe_ne_timeout (sql : String) (limit : Duration) :
    describe store sql ≠ .error (.timeout limit) := by
  unfold describe
  split <;> simp

end Driver

section Served

/-- What a run comes to with the connection that the pool has lent: the connection is back, or an
opened result has it. -/
inductive Outcome.Ran [Lending π] (lent : Pool π σ) : Outcome π σ → Prop
  | back {answer : Answer} (hanswer : ¬ answer.IsRefusal) (hdone : answer ≠ .done) (store : σ) :
    Ran lent ⟨answer, none, (lent.withStore store).released⟩
  | held {r : QueryResult} (hr : r.handle = some .pooled) : Ran lent ⟨.done, some r, lent⟩

variable [Lending π] {lent : Pool π σ} {o : Outcome π σ}

theorem Outcome.Ran.failing {e : DbError} (he : ∀ limit, e ≠ .timeout limit) :
    Outcome.Ran lent (.failing e lent.released) := by
  refine .back ?_ (by simp) lent.store
  cases e with
  | timeout limit => exact absurd rfl (he limit)
  | _ => exact id

theorem Outcome.Ran.lender_of_done (h : Outcome.Ran lent o) (hdone : o.answer = .done) :
    o.pool.lender = lent.lender := by
  cases h with
  | back hanswer hne store => exact absurd hdone hne
  | held hr => rfl

variable [Engine σ] {found : Finding σ}

/-- A run with the connection gives it back, or opens a result that holds it. -/
theorem Pool.served_ran (hfound : ∀ store compiled limit, found store compiled ≠
    .error (.timeout limit)) (lent : Pool π σ) (compiled : CompiledStatement) (verb : Verb) :
    Outcome.Ran lent (lent.served found compiled verb) := by
  cases verb with
  | exec =>
    exact .back (Answer.not_isRefusal_ofExcept (fun _ => id)
      (Driver.execute_ne_timeout lent.store compiled)) (Answer.ofExcept_ne_done (by simp) _) _
  | query =>
    cases hcolumns : found lent.store compiled with
    | error e =>
      simp only [served, hcolumns]
      exact .failing fun limit he => hfound _ _ limit (he ▸ hcolumns)
    | ok columns =>
      simp only [served, hcolumns]
      exact .held rfl
  | queryRow =>
    cases hcolumns : found lent.store compiled with
    | error e =>
      simp only [served, hcolumns]
      exact .failing fun limit he => hfound _ _ limit (he ▸ hcolumns)
    | ok columns =>
      let r : QueryResult := ⟨compiled, columns, some .pooled⟩
      obtain ⟨answer, store, hvalue, hanswer⟩ := r.value_fetch Driver.fetchFirst (·.fetchOne) lent
      have hrow : (r.fetchOne lent).value = (answer, r.close (lent.withStore store)) := hvalue
      simp only [served, hcolumns, r, hrow]
      exact .back (Answer.not_isRefusal_ofExcept (fun _ => id) hanswer)
        (Answer.ofExcept_ne_done (by simp) _) store

end Served

namespace Database

variable [Lending π] [Engine σ] (db : Database π σ)

theorem runs_eq_pool_runs (s : Statement) :
    db.runs s = db.pool.runs db.config.timeout s fun store compiled =>
      Driver.describe store compiled.sql := rfl

/-- Preparing succeeds just when the connection can be had and the engine accepts the text. The
statement is then a fresh one, with the columns of its text, and the connection is back. -/
theorem prepare_eq_ok_iff (query : String) (ps : PreparedStatement) (p : Pool π σ) :
    (db.prepare query).value = (.ok ps, p) ↔
      ∃ lent, db.pool.acquire db.config.timeout = .ok lent ∧ p = lent.released ∧
      ps.statement = (db.statement query).value ∧
      Engine.columns? db.pool.store ps.statement.positionalSql = some ps.columns ∧
      ps.timeout = db.config.timeout := by
  simp only [prepare, Logged.value_bind, Pool.withConnection]
  cases hlent : db.pool.acquire db.config.timeout with
  | error e => simp
  | ok lent =>
    have hstore := Pool.store_of_acquire db.pool hlent
    obtain ⟨statement, columns, timeout⟩ := ps
    simp only [Except.ok.injEq, exists_eq_left']
    cases hcolumns : Engine.columns? db.pool.store (db.statement query).value.positionalSql with
    | none =>
      simp only [Driver.describe, hstore, hcolumns]
      constructor
      · intro h
        cases h
      · rintro ⟨rfl, rfl, h, -⟩
        rw [hcolumns] at h
        cases h
    | some found =>
      simp only [Driver.describe, hstore, hcolumns]
      constructor
      · intro h
        cases h
        exact ⟨rfl, rfl, hcolumns, rfl⟩
      · rintro ⟨rfl, rfl, h, rfl⟩
        rw [hcolumns] at h
        cases h
        rfl

end Database

theorem PreparedStatement.runs_eq_pool_runs [Lending π] [Engine σ] (ps : PreparedStatement)
    (p : Pool π σ) : ps.runs p = p.runs ps.timeout ps.statement fun _ _ => .ok ps.columns := rfl

end BoundQuery
