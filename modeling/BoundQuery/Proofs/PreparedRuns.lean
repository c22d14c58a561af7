import BoundQuery.Proofs.BindingErrors
import BoundQuery.Proofs.FirstRow
import Mathlib.Data.List.DropRight

/-!
# Prepared statements run as fresh ones

A prepared statement keeps its query, its columns and its limit, and what is
bound on it adds up until it is cleared. So it is at any time a fresh statement
of its query with the names bound since then. A run of it compiles to the text
that was validated when it was prepared, and asks the pool for what a run of the
fresh statement asks for. What the engine is sent with the connection, when the
statement is executed and when its rows are read, is that text with the
arguments of the run.
-/

namespace BoundQuery

namespace Statement

variable {s : Statement}

theorem bindNamedAll_bindNamedAll (earlier later : Bindings) :
    (s.bindNamedAll earlier).bindNamedAll later = s.bindNamedAll (earlier ++ later) := by
  simp [bindNamedAll]

/-- Where nothing is bound by position, what compiles is sent as the text of the template. -/
theorem sql_eq_positionalSql (hpositional : s.positional = []) {compiled : CompiledStatement}
    (h : s.compile = .ok compiled) : compiled.sql = s.positionalSql := by
  have hquery := positionalQuery_of_compile_eq_ok h
  rw [positionalQuery_of_positional_eq_nil hpositional] at hquery
  obtain ⟨_, _, hq⟩ := (s.template.compile_ok_iff _ _).1 hquery
  rw [hq]
  rfl

end Statement

section Runs

variable {π σ : Type} [Lending π] [Engine σ]

theorem PreparedStatement.exec_eq {ps : PreparedStatement} {db : Database π σ}
    (htimeout : ps.timeout = db.config.timeout) : ps.exec db.pool = db.exec ps.statement := by
  rw [PreparedStatement.exec, Database.exec, htimeout]

theorem PreparedStatement.runs_eq {ps : PreparedStatement} {db : Database π σ}
    (htimeout : ps.timeout = db.config.timeout)
    (hcolumns : ∀ compiled, ps.statement.compile = .ok compiled →
      Engine.columns? db.pool.store compiled.sql = some ps.columns) :
    ps.runs db.pool = db.runs ps.statement := by
  rw [runs_eq_pool_runs, Database.runs_eq_pool_runs, htimeout]
  apply Pool.runs_congr
  intro compiled hcompile
  rw [Driver.describe, hcolumns compiled hcompile]

end Runs

namespace Client

variable {π σ : Type} {i : Nat}

namespace Call

def boundOn (i : Nat) : Call → Bindings
  | .bindNamed j name v => if j = i then [(name, v)] else []
  | .bindNamedAll j bindings => if j = i then bindings else []
  | _ => []

def clears (i : Nat) : Call → Bool
  | .clearBindings j => j == i
  | _ => false

/-- Whether a call makes a prepared statement or changes one. -/
def isOnPrepared : Call → Bool
  | .prepare _ | .bindNamed .. | .bindNamedAll .. | .clearBindings _ => true
  | _ => false

end Call

/-- What a sequence of calls binds on a prepared statement after it was last cleared. -/
def boundSinceClear (i : Nat) (calls : List Call) : Bindings :=
  (calls.rtakeWhile fun call => !call.clears i).flatMap (Call.boundOn i)

theorem boundSinceClear_concat_of_clears {calls : List Call} {call : Call}
    (h : call.clears i = true) : boundSinceClear i (calls ++ [call]) = [] := by
  rw [boundSinceClear, List.rtakeWhile_concat_neg _ _ _ (by simp [h])]
  rfl

theorem boundSinceClear_concat {calls : List Call} {call : Call} (h : call.clears i = false) :
    boundSinceClear i (calls ++ [call]) = boundSinceClear i calls ++ call.boundOn i := by
  rw [boundSinceClear, List.rtakeWhile_concat_pos _ _ _ (by simp [h])]
  simp [boundSinceClear]

def Call.made (i : Nat) (call : Call) (ps : PreparedStatement) : PreparedStatement :=
  if call.clears i then ps.clearBindings else ps.bindNamedAll (call.boundOn i)

theorem Call.made_of_other {call : Call} (hclears : call.clears i = false)
    (hbound : call.boundOn i = []) (ps : PreparedStatement) : call.made i ps = ps := by
  rw [made, hclears, hbound]
  simp [PreparedStatement.bindNamedAll, Statement.bindNamedAll]

theorem getElem?_updatePrepared {c : Client π σ} {ps : PreparedStatement}
    (h : c.prepared[i]? = some ps) (j : Nat) (f : PreparedStatement → PreparedStatement) :
    (c.updatePrepared j f).2.prepared[i]? = some (if j = i then f ps else ps) := by
  unfold updatePrepared
  by_cases hj : j = i
  · subst hj
    have hlt : j < c.prepared.length := (List.getElem?_eq_some_iff.1 h).1
    rw [h, if_pos rfl]
    exact List.getElem?_set_self hlt
  · cases c.prepared[j]? <;> simp [hj, h]

section Calls

variable [Lending π] [Engine σ] (c : Client π σ) (call : Call)

theorem call_of_not_onPrepared (hcall : call.isOnPrepared = false) :
    (c.call call).value.2.db.config = c.db.config ∧
      (c.call call).value.2.prepared = c.prepared := by
  cases call with
  | prepare query | bindNamed i name v | bindNamedAll i bindings | clearBindings i => cases hcall
  | run verb s => exact ⟨rfl, rfl⟩
  | runPrepared verb i =>
    simp only [Client.call]
    split <;> exact ⟨rfl, rfl⟩
  | begin =>
    simp only [Client.call, Logged.value_bind]
    split <;> exact ⟨rfl, rfl⟩
  | runWithin i verb s | commit i | rollback i | dropTransaction i =>
    simp only [Client.call, onTransaction]
    split <;> simp
  | use place u | dropResult place =>
    simp only [Client.call]
    split <;> simp

theorem config_call : (c.call call).value.2.db.config = c.db.config := by
  cases hcall : call.isOnPrepared with
  | false => exact (call_of_not_onPrepared c call hcall).1
  | true =>
    cases call with
    | prepare query =>
      simp only [Client.call, Logged.value_bind]
      split <;> rfl
    | bindNamed i name v | bindNamedAll i bindings | clearBindings i => simp [Client.call]
    | _ => cases hcall

/-- A prepared statement changes by what is bound on it and cleared, and by nothing else. -/
theorem prepared_call {ps : PreparedStatement} (h : c.prepared[i]? = some ps) :
    (c.call call).value.2.prepared[i]? = some (call.made i ps) := by
  cases hcall : call.isOnPrepared with
  | false =>
    have hother : call.clears i = false ∧ call.boundOn i = [] := by
      cases call <;> first | exact ⟨rfl, rfl⟩ | cases hcall
    rw [(call_of_not_onPrepared c call hcall).2, Call.made_of_other hother.1 hother.2, h]
  | true =>
    cases call with
    | bindNamed j name v =>
      rw [Client.call, Logged.value_pure, getElem?_updatePrepared h]
      by_cases hj : j = i
      · simp [hj, Call.made, Call.clears, Call.boundOn]
        rfl
      · have hbound : (Call.bindNamed j name v).boundOn i = [] := if_neg hj
        rw [if_neg hj, Call.made_of_other rfl hbound]
    | bindNamedAll j bindings =>
      rw [Client.call, Logged.value_pure, getElem?_updatePrepared h]
      by_cases hj : j = i
      · simp [hj, Call.made, Call.clears, Call.boundOn]
      · have hbound : (Call.bindNamedAll j bindings).boundOn i = [] := if_neg hj
        rw [if_neg hj, Call.made_of_other rfl hbound]
    | clearBindings j =>
      rw [Client.call, Logged.value_pure, getElem?_updatePrepared h]
      by_cases hj : j = i
      · simp [hj, Call.made, Call.clears]
      · have hclears : (Call.clearBindings j).clears i = false := by simpa [Call.clears] using hj
        rw [if_neg hj, Call.made_of_other hclears rfl]
    | prepare query =>
      have hlt : i < c.prepared.length := (List.getElem?_eq_some_iff.1 h).1
      rw [Call.made_of_other rfl rfl]
      simp only [Client.call, Logged.value_bind]
      split
      · rw [Logged.value_pure, List.getElem?_append_left hlt, h]
      · exact h
    | _ => cases hcall

theorem config_after (calls : List Call) : (c.after calls).db.config = c.db.config := by
  induction calls generalizing c with
  | nil => rfl
  | cons call calls ih => rw [after_cons, ih, config_call]

theorem made_bindNamedAll {ps : PreparedStatement} {query : String} {g : Grammar}
    (h : ps.statement = .ofQuery g query) (calls : List Call) :
    call.made i (ps.bindNamedAll (boundSinceClear i calls)) =
      ps.bindNamedAll (boundSinceClear i (calls ++ [call])) := by
  obtain ⟨statement, columns, timeout⟩ := ps
  subst h
  cases hclears : call.clears i with
  | true =>
    rw [boundSinceClear_concat_of_clears hclears, Call.made, if_pos hclears]
    rfl
  | false =>
    rw [boundSinceClear_concat hclears, Call.made, hclears, if_neg Bool.false_ne_true]
    simp [PreparedStatement.bindNamedAll, Statement.bindNamedAll_bindNamedAll]

/-- Induction on the calls from their end, where the newest one is. -/
theorem prepared_after {ps : PreparedStatement} {query : String} {g : Grammar}
    (hps : c.prepared[i]? = some ps) (h : ps.statement = .ofQuery g query) (calls : List Call) :
    (c.after calls).prepared[i]? = some (ps.bindNamedAll (boundSinceClear i calls)) := by
  induction calls using List.reverseRecOn with
  | nil =>
    rw [after_nil, hps]
    simp [boundSinceClear, PreparedStatement.bindNamedAll, Statement.bindNamedAll]
  | append_singleton calls call ih =>
    rw [after_append, after_cons, after_nil, prepared_call _ _ ih, made_bindNamedAll call h]

theorem prepared_after_prepare {query : String} {ps₀ : PreparedStatement} {p : Pool π σ}
    (hprepared : (c.db.prepare query).value = (.ok ps₀, p)) (calls : List Call) :
    let bindings := boundSinceClear c.prepared.length calls
    let c' := c.after (.prepare query :: calls)
    c'.prepared[c.prepared.length]? = some (ps₀.bindNamedAll bindings) ∧
      (ps₀.bindNamedAll bindings).statement = (c'.db.statement query).value.bindNamedAll bindings ∧
      ps₀.timeout = c'.db.config.timeout := by
  intro bindings c'
  obtain ⟨-, -, -, hstatement, -, htimeout⟩ := (c.db.prepare_eq_ok_iff query ps₀ p).1 hprepared
  have hcall : (c.call (.prepare query)).value.2 =
      { c.withPool p with prepared := c.prepared ++ [ps₀] } := by
    simp only [Client.call, Logged.value_bind, hprepared, Logged.value_pure]
  have hplace : (c.call (.prepare query)).value.2.prepared[c.prepared.length]? = some ps₀ := by
    rw [hcall]
    exact List.getElem?_concat_length
  have hconfig : c'.db.config = c.db.config := config_after c _
  have hfresh : (c'.db.statement query).value = ps₀.statement := by
    rw [hstatement, Database.statement, Database.statement, hconfig]
  refine ⟨prepared_after _ hplace hstatement calls, ?_, ?_⟩
  · rw [hfresh]
    rfl
  · rw [hconfig, htimeout]

theorem call_runPrepared_eq {ps : PreparedStatement} (hps : c.prepared[i]? = some ps) {verb : Verb}
    {s : Statement} (hperform : (ps.runs c.db.pool).perform verb = (c.db.runs s).perform verb) :
    c.call (.runPrepared verb i) = c.call (.run verb s) := by
  simp only [Client.call, hps, hperform]

/-- What the runs of the prepared statement in a place come to with the connection that the pool has
lent, where the statement compiles: the text that is sent to the engine, and the arguments with it.
An execution sends them at once, and so does asking for one row; a query only opens a result, and
sends them when that is read. -/
structure Sends (c : Client π σ) (i : Nat) (lent : Pool π σ) (compiled : CompiledStatement)
    (columns : List String) (sql : String) (args : List (Engine.Argument σ)) : Prop where
  executed :
    let sent := Engine.execute lent.store sql args
    (c.call (.runPrepared .exec i)).value =
      (.ofExcept .executed (ExecResult.ofEngine compiled sent.1),
        c.withPool (lent.withStore sent.2).released)
  opened : (c.call (.runPrepared .query i)).value =
    (.done, { c.withPool lent with
      results := c.results ++ [some ⟨compiled, columns, some .pooled⟩] })
  readAll (p : Pool π σ) :
    let sent := Engine.fetch p.store sql args
    let read := (ResultSet.ofScript (Cursor.script columns sent.items)).fetchAll.value
    ((QueryResult.mk compiled columns (some .pooled)).fetchAll p).value =
      (read.1.toAnswer, ⟨compiled, columns, none⟩, (p.withStore (sent.after read.2.reads)).released)
  readRow :
    let sent := Engine.fetchOptional lent.store sql args
    let read := (ResultSet.ofScript (Cursor.script columns (RowStream.once sent.1))).fetchOne.value
    (c.call (.runPrepared .queryRow i)).value =
      (.ofExcept .row read.1.toAnswer, c.withPool (lent.withStore sent.2).released)

theorem value_call_runPrepared {ps : PreparedStatement} (hps : c.prepared[i]? = some ps)
    {compiled : CompiledStatement} (hcompile : ps.statement.compile = .ok compiled)
    {lent : Pool π σ} (hlent : c.db.pool.acquire ps.timeout = .ok lent) (verb : Verb) :
    (c.call (.runPrepared verb i)).value =
      c.settle (lent.served (fun _ _ => .ok ps.columns) compiled verb) := by
  simp only [Client.call, hps, Logged.value_bind, Logged.value_pure, ps.runs_eq_pool_runs,
    c.db.pool.value_perform_runs_of_lent hcompile hlent]

theorem sends_of_lent {ps : PreparedStatement} (hps : c.prepared[i]? = some ps)
    {compiled : CompiledStatement} (hcompile : ps.statement.compile = .ok compiled)
    {lent : Pool π σ} (hlent : c.db.pool.acquire ps.timeout = .ok lent) :
    c.Sends i lent compiled ps.columns compiled.sql (bindArgs compiled.args) where
  executed := by
    rw [c.value_call_runPrepared hps hcompile hlent]
    simp [Pool.served, Driver.value_execute, settle, withPool]
  opened := by
    rw [c.value_call_runPrepared hps hcompile hlent]
    rfl
  readAll p := QueryResult.value_fetchAll_of_open rfl
  readRow := by
    rw [c.value_call_runPrepared hps hcompile hlent]
    dsimp only [Pool.served]
    rw [QueryResult.value_fetchOne_of_open rfl]
    simp [settle, withPool, QueryResult.close]

/-- A prepared statement is in step with fresh statements of its query: at any time it compiles as a
fresh one with the names bound on it since it was last cleared, and then to the text that was
validated when it was prepared. That text is what each run of it sends to the engine, with the
arguments that it compiled to; a run that does not compile fails in the same words. It executes as
the fresh one does, and runs in every way as that one does as long as the engine finds the same
columns for the text. -/
theorem prepared_runs_as_fresh (query : String) {ps₀ : PreparedStatement} {p : Pool π σ}
    (hprepared : (c.db.prepare query).value = (.ok ps₀, p)) (calls : List Call) :
    let i := c.prepared.length
    let c' := c.after (.prepare query :: calls)
    let fresh := (c'.db.statement query).value.bindNamedAll (boundSinceClear i calls)
    ∃ ps, c'.prepared[i]? = some ps ∧
      ps.statement.compile = fresh.compile ∧
      fresh.compile ≠ .error .mixedBindings ∧
      (∀ e, fresh.compile = .error e →
        ∀ verb, c'.call (.runPrepared verb i) = pure (.failed (.core e), c')) ∧
      (∀ compiled, fresh.compile = .ok compiled →
        compiled.sql = ps.statement.positionalSql ∧ compiled.sql = ps₀.statement.positionalSql ∧
        Engine.columns? c.db.pool.store compiled.sql = some ps₀.columns ∧
        ∀ lent, c'.db.pool.acquire c'.db.config.timeout = .ok lent →
          c'.Sends i lent compiled ps₀.columns ps₀.statement.positionalSql
            (bindArgs compiled.args)) ∧
      c'.call (.runPrepared .exec i) = c'.call (.run .exec fresh) ∧
      (Engine.columns? c'.db.pool.store ps.statement.positionalSql =
          Engine.columns? c.db.pool.store ps.statement.positionalSql →
        ∀ verb, c'.call (.runPrepared verb i) = c'.call (.run verb fresh)) := by
  intro i c' fresh
  obtain ⟨-, -, -, -, hcolumns, -⟩ := (c.db.prepare_eq_ok_iff query ps₀ p).1 hprepared
  let ps := ps₀.bindNamedAll (boundSinceClear i calls)
  obtain ⟨hps, hfresh, hlimit⟩ : c'.prepared[i]? = some ps ∧ ps.statement = fresh ∧
    ps.timeout = c'.db.config.timeout := prepared_after_prepare c hprepared calls
  have htext : ps.statement.positionalSql = ps₀.statement.positionalSql := rfl
  have hpositional : fresh.positional = [] := rfl
  have hsql : ∀ compiled, fresh.compile = .ok compiled →
      compiled.sql = ps.statement.positionalSql := by
    intro compiled hcompile
    rw [Statement.sql_eq_positionalSql hpositional hcompile, hfresh]
  refine ⟨ps, hps, congrArg _ hfresh, ?_, ?_, ?_, ?_, ?_⟩
  · intro hmixed
    exact (Statement.compile_eq_mixedBindings_iff.1 hmixed).2 hpositional
  · intro e hcompile verb
    apply call_of_compile_eq_error (s := fresh) _ hcompile
    simp only [statement?, hps, Option.map_some, hfresh]
  · intro compiled hcompile
    have hsent := hsql compiled hcompile
    refine ⟨hsent, hsent.trans htext, ?_, ?_⟩
    · rw [hsent, htext, hcolumns]
    · intro lent hlent
      rw [← htext, ← hsent]
      exact c'.sends_of_lent hps (hfresh ▸ hcompile) (hlimit ▸ hlent)
  · have hexec : ps.exec c'.db.pool = c'.db.exec fresh := hfresh ▸ PreparedStatement.exec_eq hlimit
    apply call_runPrepared_eq c' hps
    simp only [Runs.perform, PreparedStatement.runs, Database.runs, hexec]
  · intro hschema verb
    apply call_runPrepared_eq c' hps
    rw [← hfresh, PreparedStatement.runs_eq hlimit]
    intro compiled hcompile
    rw [hsql compiled (hfresh ▸ hcompile), hschema, htext, hcolumns]
    rfl

end Calls

/-- A value is bound again after a run and a clearing. -/
theorem prepared_runs_as_fresh_after_clearing :
    let c : Client Lender Store := start (.ofPool .opened)
    let query := "SELECT v FROM kv WHERE k = :k:"
    let calls : List Call := [.bindNamed 0 "k" (.int64 1), .runPrepared .queryRow 0,
      .clearBindings 0, .bindNamed 0 "k" (.int64 2)]
    let c' := c.after (.prepare query :: calls)
    let fresh := (c'.db.statement query).value.bindNamedAll (boundSinceClear 0 calls)
    boundSinceClear 0 calls = [("k", .int64 2)] ∧
    c'.call (.runPrepared .query 0) = c'.call (.run .query fresh) := by
  intro c query calls c' fresh
  have hprepared : (c.db.prepare query).value =
      (.ok ⟨.ofQuery default query, ["v"], none⟩, c.db.pool) := by
    rw [Database.prepare_eq_ok_iff]
    exact ⟨_, rfl, rfl, rfl, by decide +kernel, rfl⟩
  obtain ⟨ps, -, -, -, -, -, -, hruns⟩ := prepared_runs_as_fresh c query hprepared calls
  exact ⟨rfl, hruns rfl .query⟩

end Client
end BoundQuery
