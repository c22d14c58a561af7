import BoundQuery.Proofs.BindingErrors

/-!
# The steps of a client

Each call on a client comes to one of a few steps: nothing, a run with the
connection that the pool has lent, a run in a transaction, the beginning or the
end of a transaction, the use or the dropping of a result, or a change to the
prepared statements. What holds of every step holds after any sequence of calls.
-/

namespace BoundQuery

open Session (Answer)

variable {π σ : Type}

/-- What a run in a transaction comes to: the connection stays with it, or is lent to a result. -/
inductive Outcome.RanWithin (p : Pool π σ) : Outcome π σ → Prop
  | kept (answer : Answer) (store : σ) : RanWithin p ⟨answer, none, p.withStore store⟩
  | lent (answer : Answer) {r : QueryResult} (hr : r.handle = some .borrowed) :
    RanWithin p ⟨answer, some r, p⟩

namespace QueryResult

variable {r : QueryResult} [Lending π] (p : Pool π σ)

theorem isClosed_close (r : QueryResult) : (r.close p).1.isClosed = true := by
  unfold close
  split <;> rfl

variable [Engine σ]

theorem value_answer_fetch (r : QueryResult) {α : Type} (f : α → Answer)
    (stream : σ → CompiledStatement → Logged (RowStream (Engine.Column σ) σ))
    (read : ResultSet → Logged (Fetched α × ResultSet)) :
    ∃ answer store, (do
      let (result, kept) ← r.fetch stream read p
      return (Answer.ofExcept f result, kept) : Logged _).value =
        (answer, r.close (p.withStore store)) := by
  obtain ⟨result, store, hvalue, -⟩ := r.value_fetch stream read p
  refine ⟨.ofExcept f result, store, ?_⟩
  simp only [Logged.value_bind, hvalue]
  rfl

theorem value_use (r : QueryResult) (u : Use) :
    ∃ answer store, (r.use p u).value = (answer, r.close (p.withStore store)) := by
  cases u with
  | fetchAll => exact value_answer_fetch p r .rows Driver.fetch (·.fetchAll)
  | fetchOne => exact value_answer_fetch p r .row Driver.fetchFirst (·.fetchOne)
  | fetchTyped T => exact value_answer_fetch p r (.records T) Driver.fetch (·.fetchTyped T)
  | close => exact ⟨.done, p.store, rfl⟩

end QueryResult

namespace Transaction

variable [Lending π] [Engine σ] (t : Transaction σ) (p : Pool π σ)

theorem perform_ranWithin (s : Statement) (verb : Verb) :
    Outcome.RanWithin p ((t.runs s p).perform verb).value := by
  cases hcompile : s.compile with
  | error e =>
    rw [perform_of_error hcompile]
    exact .kept _ p.store
  | ok compiled =>
    cases verb with
    | exec =>
      simp only [Runs.perform, runs, exec, Statement.compileLogged_of_ok hcompile,
        Logged.value_bind]
      exact .kept _ (Driver.execute p.store compiled).value.2
    | query =>
      simp only [Runs.perform, runs, query, Statement.compileLogged_of_ok hcompile,
        Logged.value_bind]
      cases Driver.describe p.store compiled.sql with
      | error e => exact .kept _ p.store
      | ok columns => exact .lent _ rfl
    | queryRow =>
      simp only [Runs.perform, runs, queryRow, query, Statement.compileLogged_of_ok hcompile,
        Logged.value_bind]
      cases Driver.describe p.store compiled.sql with
      | error e => exact .kept _ p.store
      | ok columns =>
        let r : QueryResult := ⟨compiled, columns, some .borrowed⟩
        obtain ⟨answer, store, hrow, -⟩ := r.value_fetch Driver.fetchFirst (·.fetchOne) p
        have hvalue : (r.fetchOne p).value = (answer, r.closed, p.withStore store) := hrow
        simp only [Pool.fetchOpened, Logged.value_bind, Logged.value_pure, r, hvalue]
        exact .kept _ store

theorem value_finish (ended : Bool × σ) (report : Event) :
    ∃ answer store, (t.finish ended report p).value = (answer, (p.withStore store).released) := by
  unfold finish
  split
  · exact ⟨_, _, rfl⟩
  · exact ⟨_, _, rfl⟩

end Transaction

namespace Client

variable {c : Client π σ} {place place' : Place} {r : QueryResult}

def Place.handle : Place → Handle
  | .own _ => .pooled
  | .lent _ => .borrowed

section Places

theorem result?_own_eq_some_iff {i : Nat} :
    c.result? (.own i) = some r ↔ c.results[i]? = some (some r) := Option.join_eq_some_iff

theorem result?_lent_eq_some_iff {i : Nat} :
    c.result? (.lent i) = some r ↔
      ∃ t, c.transactions[i]? = some (some t) ∧ t.result = some r := by
  simp [result?, Option.bind_eq_some_iff, Option.join_eq_some_iff]

@[simp] theorem result?_withPool (p : Pool π σ) : (c.withPool p).result? place = c.result? place := by
  cases place <;> rfl

theorem result?_putResult_of_ne (h : place' ≠ place) (x : Option QueryResult) :
    (c.putResult place x).result? place' = c.result? place' := by
  cases place with
  | own i =>
    cases place' with
    | own j =>
      have hij : i ≠ j := by
        rintro rfl
        exact h rfl
      simp [result?, putResult, hij]
    | lent j => rfl
  | lent i =>
    cases place' with
    | own j => rfl
    | lent j =>
      have hij : i ≠ j := by
        rintro rfl
        exact h rfl
      simp [result?, putResult, hij]

theorem result?_putResult_cases {x : Option QueryResult}
    (h : (c.putResult place x).result? place' = some r) :
    (place' = place ∧ x = some r) ∨ c.result? place' = some r := by
  by_cases hplace : place' = place
  · subst hplace
    refine .inl ⟨rfl, ?_⟩
    cases place' with
    | own i =>
      rw [result?_own_eq_some_iff, putResult, List.getElem?_set_self'] at h
      obtain ⟨_, -, hx⟩ := Option.map_eq_some_iff.1 h
      exact hx
    | lent i =>
      obtain ⟨t, ht, hr⟩ := result?_lent_eq_some_iff.1 h
      rw [putResult, List.getElem?_modify_eq] at ht
      obtain ⟨t', -, ht'⟩ := Option.map_eq_some_iff.1 ht
      obtain ⟨t'', -, rfl⟩ := Option.map_eq_some_iff.1 ht'
      exact hr
  · rw [result?_putResult_of_ne hplace] at h
    exact .inr h

theorem result?_settle_cases {o : Outcome π σ} (h : (c.settle o).2.result? place = some r) :
    (o.opened = some r ∧ ∃ i, place = .own i) ∨ c.result? place = some r := by
  cases place with
  | own i =>
    rw [result?_own_eq_some_iff] at h
    by_cases hlt : i < c.results.length
    · exact .inr (result?_own_eq_some_iff.2 ((List.getElem?_append_left hlt).symm.trans h))
    · have hnew : (o.opened.toList.map some)[i - c.results.length]? = some (some r) :=
        (List.getElem?_append_right (Nat.not_lt.1 hlt)).symm.trans h
      have hmem := List.mem_of_getElem? hnew
      exact .inl ⟨by simpa using hmem, i, rfl⟩
  | lent i => exact .inr h

theorem result?_began (t : Transaction σ) (p : Pool π σ) :
    ({ c.withPool p with transactions := c.transactions ++ [some ⟨t, none⟩] } : Client π σ).result?
      place = c.result? place := by
  cases place with
  | own i => rfl
  | lent i =>
    simp only [result?, List.getElem?_append]
    split
    · rfl
    · next hlt =>
      rw [List.getElem?_eq_none (Nat.not_lt.1 hlt)]
      cases i - c.transactions.length <;> rfl

theorem result?_withoutTransaction {i : Nat} {t : Transaction σ}
    (ht : c.transactions[i]? = some (some ⟨t, none⟩)) (p : Pool π σ) :
    (c.withoutTransaction i p).result? place = c.result? place := by
  cases place with
  | own j => rfl
  | lent j =>
    by_cases hij : i = j
    · subst hij
      have hnone : c.result? (.lent i) = none := by simp [result?, ht]
      have hlt : i < c.transactions.length := (List.getElem?_eq_some_iff.1 ht).1
      rw [hnone]
      simp [result?, withoutTransaction, withPool, hlt]
    · simp [result?, withoutTransaction, withPool, hij]

end Places

/-- Whether all that a client asks for the connection with a limit has this limit. -/
structure Limited (limit : Duration) (c : Client π σ) : Prop where
  timeout : c.db.config.timeout = some limit
  prepared : ∀ ps ∈ c.prepared, ps.timeout = some limit

/-- The steps that a client takes by a call. -/
inductive Step [Lending π] (limit : Duration) (c : Client π σ) : Call → Client π σ → Prop
  | same {call : Call} : Step limit c call c
  | edited {call : Call} {prepared : List PreparedStatement}
      (h : ∀ ps ∈ prepared, ps.timeout = some limit) :
      Step limit c call { c with prepared := prepared }
  | returned {call : Call} {limit' : Option Duration} {lent : Pool π σ}
      (hlent : c.db.pool.acquire limit' = .ok lent) {prepared : List PreparedStatement}
      (h : ∀ ps ∈ prepared, ps.timeout = some limit) (store : σ) :
      Step limit c call { c.withPool (lent.withStore store).released with prepared := prepared }
  | ran {call : Call} {limit' : Option Duration} {lent : Pool π σ}
      (hlent : c.db.pool.acquire limit' = .ok lent) {o : Outcome π σ} (ho : o.Ran lent) :
      Step limit c call (c.settle o).2
  | began {call : Call} {limit' : Option Duration} {lent : Pool π σ}
      (hlent : c.db.pool.acquire limit' = .ok lent) (t : Transaction σ) (store : σ) :
      Step limit c call { c.withPool (lent.withStore store) with
        transactions := c.transactions ++ [some ⟨t, none⟩] }
  | ranWithin {call : Call} {i : Nat} {t : Transaction σ} {o : Outcome π σ}
      (ht : c.transactions[i]? = some (some ⟨t, none⟩)) (ho : o.RanWithin c.db.pool) :
      Step limit c call ((c.withPool o.pool).putResult (.lent i) o.opened)
  | ended {call : Call} {i : Nat} {t : Transaction σ}
      (ht : c.transactions[i]? = some (some ⟨t, none⟩)) (store : σ) :
      Step limit c call (c.withoutTransaction i (c.db.pool.withStore store).released)
  | used {place : Place} {u : Use} {r : QueryResult} (hr : c.result? place = some r) (store : σ) :
      Step limit c (.use place u)
        ((c.withPool (r.close (c.db.pool.withStore store)).2).putResult place
          (some (r.close (c.db.pool.withStore store)).1))
  | dropped {place : Place} {r : QueryResult} (hr : c.result? place = some r) :
      Step limit c (.dropResult place) ((c.withPool (r.close c.db.pool).2).putResult place none)

theorem onTransaction_cases (c : Client π σ) (i : Nat) :
    (∃ t, c.transactions[i]? = some (some ⟨t, none⟩)) ∨
      ∀ f, c.onTransaction i f = pure (.absent, c) := by
  by_cases h : ∃ t, c.transactions[i]? = some (some ⟨t, none⟩)
  · exact .inl h
  · right
    intro f
    unfold onTransaction
    split
    · next t ht => exact absurd ⟨t, ht⟩ h
    · rfl

variable {limit : Duration} [Lending π]

theorem Limited.step_updatePrepared (h : c.Limited limit) (call : Call) (i : Nat)
    {f : PreparedStatement → PreparedStatement} (hf : ∀ ps, (f ps).timeout = ps.timeout) :
    Step limit c call (c.updatePrepared i f).2 := by
  unfold updatePrepared
  split
  · next ps hps =>
    apply Step.edited
    intro ps' hps'
    obtain hold | rfl := List.mem_or_eq_of_mem_set hps'
    · exact h.prepared ps' hold
    · rw [hf, h.prepared ps (List.mem_of_getElem? hps)]
  · exact .same

variable [Engine σ]

theorem step_runs (limit : Duration) (c : Client π σ) (call : Call) (s : Statement)
    {found : Finding σ} (hfound : ∀ store compiled limit,
      found store compiled ≠ .error (.timeout limit)) (verb : Verb) :
    Step limit c call (c.settle ((c.db.pool.runs (some limit) s found).perform verb).value).2 := by
  obtain ⟨e, hfailing⟩ | ⟨compiled, lent, hlent, hserved⟩ :=
    c.db.pool.value_perform_runs_cases (some limit) s found verb
  · rw [hfailing, settle_failing]
    exact .same
  · rw [hserved]
    exact .ran hlent (Pool.served_ran hfound lent compiled verb)

theorem value_run_eq (hlimited : c.Limited limit) (verb : Verb) (s : Statement) :
    (c.call (.run verb s)).value = c.settle ((c.db.pool.runs (some limit) s
      fun store compiled => Driver.describe store compiled.sql).perform verb).value := by
  rw [← hlimited.timeout, ← Database.runs_eq_pool_runs]
  rfl

theorem value_runPrepared_eq (hlimited : c.Limited limit) {i : Nat} {ps : PreparedStatement}
    (hps : c.prepared[i]? = some ps) (verb : Verb) :
    (c.call (.runPrepared verb i)).value = c.settle ((c.db.pool.runs (some limit) ps.statement
      fun _ _ => .ok ps.columns).perform verb).value := by
  rw [← hlimited.prepared ps (List.mem_of_getElem? hps), ← PreparedStatement.runs_eq_pool_runs]
  simp only [Client.call, hps]
  rfl

theorem value_use_eq (hr : c.result? place = some r) (u : Use) :
    ∃ answer store, (c.call (.use place u)).value = (answer,
      (c.withPool (r.close (c.db.pool.withStore store)).2).putResult place
        (some (r.close (c.db.pool.withStore store)).1)) := by
  obtain ⟨answer, store, hvalue⟩ := r.value_use c.db.pool u
  refine ⟨answer, store, ?_⟩
  simp only [Client.call, hr, Logged.value_bind, hvalue]
  rfl

/-- The calls that end a transaction. -/
inductive Call.EndsTransaction (i : Nat) : Call → Prop
  | commit : EndsTransaction i (.commit i)
  | rollback : EndsTransaction i (.rollback i)
  | drop : EndsTransaction i (.dropTransaction i)

theorem value_of_endsTransaction {i : Nat} {t : Transaction σ} {call : Call}
    (ht : c.transactions[i]? = some (some ⟨t, none⟩)) (hcall : call.EndsTransaction i) :
    ∃ answer store, (c.call call).value = (answer,
      c.withoutTransaction i (c.db.pool.withStore store).released) := by
  cases hcall with
  | commit =>
    obtain ⟨result, store, hvalue⟩ := t.value_finish c.db.pool (Engine.commit c.db.pool.store)
      .transactionCommitted
    refine ⟨.ofExcept (fun _ => .done) result, store, ?_⟩
    simp only [Client.call, onTransaction, ht, Transaction.commit, Logged.value_bind, hvalue]
    rfl
  | rollback =>
    obtain ⟨result, store, hvalue⟩ := t.value_finish c.db.pool
      (Engine.rollBack t.begun c.db.pool.store) .transactionRolledBack
    refine ⟨.ofExcept (fun _ => .done) result, store, ?_⟩
    simp only [Client.call, onTransaction, ht, Transaction.rollback, Logged.value_bind, hvalue]
    rfl
  | drop =>
    refine ⟨.done, (Engine.rollBack t.begun c.db.pool.store).2, ?_⟩
    simp only [Client.call, onTransaction, ht]
    rfl

theorem step_of_endsTransaction {i : Nat} {call : Call} (hcall : call.EndsTransaction i) :
    Step limit c call (c.call call).value.2 := by
  obtain ⟨t, ht⟩ | habsent := c.onTransaction_cases i
  · obtain ⟨answer, store, hvalue⟩ := value_of_endsTransaction ht hcall
    rw [hvalue]
    exact .ended ht store
  · have hcalled : c.call call = pure (.absent, c) := by cases hcall <;> exact habsent _
    rw [hcalled]
    exact .same

theorem value_prepare_of_lent (query : String) {lent : Pool π σ}
    (hlent : c.db.pool.acquire c.db.config.timeout = .ok lent) :
    (c.call (.prepare query)).value =
      match Driver.describe lent.store (c.db.statement query).value.positionalSql with
      | .error e => (.failed e, c.withPool lent.released)
      | .ok columns => (.done, { c.withPool lent.released with
          prepared := c.prepared ++
            [⟨(c.db.statement query).value, columns, c.db.config.timeout⟩] }) := by
  simp only [Client.call, Database.prepare, Pool.withConnection, hlent, Logged.value_bind]
  cases Driver.describe lent.store (c.db.statement query).value.positionalSql <;> rfl

theorem value_begin_of_lent {lent : Pool π σ} (hlent : c.db.pool.acquire none = .ok lent) :
    (c.call .begin).value =
      if (Engine.begin lent.store).1 then
        (.done, { c.withPool (lent.withStore (Engine.begin lent.store).2) with
          transactions := c.transactions ++ [some ⟨⟨c.db.config, lent.store⟩, none⟩] })
      else
        (.failed .driver, c.withPool (lent.withStore (Engine.begin lent.store).2).released) := by
  simp only [Client.call, Database.begin, Pool.withConnection, hlent, Logged.value_bind]
  cases (Engine.begin lent.store).1 <;> rfl

theorem value_prepare_of_refused (query : String) {e : DbError}
    (hrefused : c.db.pool.acquire c.db.config.timeout = .error e) :
    (c.call (.prepare query)).value = (.failed e, c) := by
  simp only [Client.call, Database.prepare, Pool.withConnection, hrefused, Logged.value_bind]
  rfl

theorem value_begin_of_refused {e : DbError} (hrefused : c.db.pool.acquire none = .error e) :
    (c.call .begin).value = (.failed e, c) := by
  simp only [Client.call, Database.begin, Pool.withConnection, hrefused, Logged.value_bind]
  rfl

theorem value_runWithin_eq {i : Nat} {t : Transaction σ}
    (ht : c.transactions[i]? = some (some ⟨t, none⟩)) (verb : Verb) (s : Statement) :
    ∃ o, Outcome.RanWithin c.db.pool o ∧ (c.call (.runWithin i verb s)).value =
      (o.answer, (c.withPool o.pool).putResult (.lent i) o.opened) := by
  refine ⟨_, t.perform_ranWithin c.db.pool s verb, ?_⟩
  simp only [Client.call, onTransaction, ht]
  rfl

/-- Each call takes one of the steps, with what the call is made on as it is in its place. -/
theorem Limited.step (hlimited : c.Limited limit) (call : Call) :
    Step limit c call (c.call call).value.2 := by
  cases call with
  | run verb s =>
    rw [value_run_eq hlimited]
    exact step_runs limit c _ s (fun _ _ _ => Driver.describe_ne_timeout _ _ _) verb
  | prepare query =>
    cases hlent : c.db.pool.acquire c.db.config.timeout with
    | error e =>
      rw [value_prepare_of_refused query hlent]
      exact .same
    | ok lent =>
      rw [value_prepare_of_lent query hlent]
      split
      · exact .returned hlent hlimited.prepared lent.store
      · refine .returned hlent (List.forall_mem_append.2 ⟨hlimited.prepared, ?_⟩) lent.store
        simp [hlimited.timeout]
  | bindNamed i name v => exact hlimited.step_updatePrepared _ i fun _ => rfl
  | bindNamedAll i bindings => exact hlimited.step_updatePrepared _ i fun _ => rfl
  | clearBindings i => exact hlimited.step_updatePrepared _ i fun _ => rfl
  | runPrepared verb i =>
    cases hps : c.prepared[i]? with
    | some ps =>
      rw [value_runPrepared_eq hlimited hps]
      exact step_runs limit c _ ps.statement (by simp) verb
    | none =>
      simp only [Client.call, hps]
      exact .same
  | begin =>
    cases hlent : c.db.pool.acquire none with
    | error e =>
      rw [value_begin_of_refused hlent]
      exact .same
    | ok lent =>
      rw [value_begin_of_lent hlent]
      split
      · exact .began hlent _ _
      · exact .returned hlent hlimited.prepared _
  | runWithin i verb s =>
    obtain ⟨t, ht⟩ | habsent := c.onTransaction_cases i
    · obtain ⟨o, ho, hvalue⟩ := value_runWithin_eq ht verb s
      rw [hvalue]
      exact .ranWithin ht ho
    · simp only [Client.call, habsent]
      exact .same
  | commit i => exact step_of_endsTransaction .commit
  | rollback i => exact step_of_endsTransaction .rollback
  | dropTransaction i => exact step_of_endsTransaction .drop
  | use place u =>
    cases hr : c.result? place with
    | some r =>
      obtain ⟨answer, store, hvalue⟩ := value_use_eq hr u
      rw [hvalue]
      exact .used hr store
    | none =>
      simp only [Client.call, hr]
      exact .same
  | dropResult place =>
    cases hr : c.result? place with
    | some r =>
      simp only [Client.call, hr]
      exact .dropped hr
    | none =>
      simp only [Client.call, hr]
      exact .same

end Client
end BoundQuery
