import BoundQuery.Proofs.Compilation
import BoundQuery.Proofs.PoolRuns

/-!
# Binding errors stay with the caller

A statement is compiled before anything is asked of the pool or the engine. So a
run of one that does not compile answers the error of its compilation, reports
nothing and changes nothing, whoever holds the connection: it is as if the call
had not been made.
-/

namespace BoundQuery

section Runs

variable {π σ : Type} [Lending π] [Engine σ] {s : Statement} {e : Error}

theorem Database.perform_of_error (h : s.compile = .error e) (db : Database π σ) (verb : Verb) :
    (db.runs s).perform verb = pure (.failing (.core e) db.pool) := by
  rw [runs_eq_pool_runs]
  exact db.pool.perform_runs_of_error h verb

theorem PreparedStatement.perform_of_error {ps : PreparedStatement}
    (h : ps.statement.compile = .error e) (p : Pool π σ) (verb : Verb) :
    (ps.runs p).perform verb = pure (.failing (.core e) p) := by
  rw [runs_eq_pool_runs]
  exact p.perform_runs_of_error h verb

theorem Transaction.perform_of_error (h : s.compile = .error e) (t : Transaction σ) (p : Pool π σ)
    (verb : Verb) : (t.runs s p).perform verb = pure (.failing (.core e) p) := by
  have hexec : t.exec s p = pure (.error (.core e), p) := by
    rw [exec, Statement.compileLogged_of_error h]
    rfl
  have hquery : t.query s p = pure (.error (.core e), p) := by
    rw [query, Statement.compileLogged_of_error h]
    rfl
  have hqueryRow : t.queryRow s p = pure (.error (.core e), p) := by
    rw [queryRow, hquery]
    rfl
  exact Runs.perform_of_failed (by rw [runs, hexec]; rfl) (by rw [runs, hquery]; rfl)
    (by rw [runs, hqueryRow]; rfl) verb

end Runs

theorem Statement.bindingError_of_compile_eq_error {s : Statement} {e : Error}
    (h : s.compile = .error e) :
    (∃ missing unexpected, e = .parameterMismatch missing unexpected) ∨ e = .mixedBindings := by
  by_cases hpositional : s.positional = []
  · exact .inl (parameterMismatch_of_compile_eq_error hpositional h)
  · by_cases hnamed : s.named = []
    · obtain ⟨c, hc, _⟩ := compile_of_positional hnamed hpositional
      rw [hc] at h
      cases h
    · rw [compile_eq_mixedBindings_iff.2 ⟨hnamed, hpositional⟩] at h
      exact .inr (Except.error.inj h).symm

namespace Client

variable {π σ : Type}

/-- The statement that a call runs, on the database, as it was prepared, or in a transaction. -/
def statement? (c : Client π σ) : Call → Option Statement
  | .run _ s => some s
  | .runPrepared _ i => c.prepared[i]?.map PreparedStatement.statement
  | .runWithin i _ s =>
    match c.transactions[i]? with
    | some (some ⟨_, none⟩) => some s
    | _ => none
  | _ => none

theorem settle_failing (c : Client π σ) (e : DbError) :
    c.settle (.failing e c.db.pool) = (.failed e, c) := by
  simp [settle, Outcome.failing, withPool, Database.withPool]

theorem putResult_lent_self {c : Client π σ} {i : Nat} {t : Transaction σ} {x : Option QueryResult}
    (h : c.transactions[i]? = some (some ⟨t, x⟩)) : c.putResult (.lent i) x = c := by
  have hmodify : c.transactions.modify i (Option.map fun t => { t with result := x }) =
      c.transactions := by
    apply List.ext_getElem?
    intro j
    rw [List.getElem?_modify]
    split
    · next hij => subst hij; rw [h]; rfl
    · simp
  rw [putResult, hmodify]

variable [Lending π] [Engine σ] {c : Client π σ} {call : Call} {s : Statement} {e : Error}

theorem call_of_compile_eq_error (hcall : c.statement? call = some s) (h : s.compile = .error e) :
    c.call call = pure (.failed (.core e), c) := by
  cases call with
  | run verb s' =>
    obtain rfl : s' = s := Option.some.inj hcall
    rw [Client.call, Database.perform_of_error h, ← settle_failing c]
    rfl
  | runPrepared verb i =>
    obtain ⟨ps, hps, rfl⟩ := Option.map_eq_some_iff.1 hcall
    simp only [Client.call, hps]
    rw [PreparedStatement.perform_of_error h, ← settle_failing c]
    rfl
  | runWithin i verb s' =>
    simp only [statement?] at hcall
    split at hcall
    · next t ht =>
      obtain rfl := Option.some.inj hcall
      have hput : (c.withPool c.db.pool).putResult (.lent i) none = c := putResult_lent_self ht
      simp only [Client.call, onTransaction, ht]
      rw [Transaction.perform_of_error h]
      exact congrArg (fun c => (pure (.failed (.core e), c) : Logged (Session.Answer × _))) hput
    · cases hcall
  | _ => cases hcall

/-- A run of a statement that does not compile, on the database, as prepared or in a transaction,
answers exactly the error of its compilation, which is one of the bindings. It reports nothing and
leaves the client as it was, so that all later calls go as if it had not been made. -/
theorem binding_error_changes_nothing (c : Client π σ) (call : Call) {s : Statement} {e : Error}
    (hcall : c.statement? call = some s) (h : s.compile = .error e) :
    ((∃ missing unexpected, e = .parameterMismatch missing unexpected) ∨ e = .mixedBindings) ∧
    c.call call = pure (.failed (.core e), c) ∧
    ∀ later, c.run (call :: later) = do
      let (answers, c) ← c.run later
      return (.failed (.core e) :: answers, c) := by
  have hcalled := call_of_compile_eq_error hcall h
  refine ⟨Statement.bindingError_of_compile_eq_error h, hcalled, fun later => ?_⟩
  rw [run, hcalled]
  rfl

/-- A value is missing while a transaction holds the connection, with a limit on waiting for it. -/
theorem binding_error_while_connection_is_held :
    let config := (default : DatabaseConfig).withTimeout (.ofMillis 20)
    let kept : Store := ⟨[(1, .text "a")], 1, 1⟩
    let c : Client Lender Store :=
      ⟨⟨⟨kept, { Lender.opened with inUse := true }⟩, config⟩, [], [some ⟨⟨config, kept⟩, none⟩], []⟩
    let s := (Statement.ofQuery default "UPDATE kv SET v = :v: WHERE k = :k:").bindNamed "k" "1"
    s.compile = .error (.parameterMismatch ["v"] []) ∧
    c.call (.run .exec s) = pure (.failed (.core (.parameterMismatch ["v"] [])), c) ∧
    c.call (.runWithin 0 .query s) = pure (.failed (.core (.parameterMismatch ["v"] [])), c) := by
  intro config kept c s
  have hs : s.compile = .error (.parameterMismatch ["v"] []) := by decide +kernel
  exact ⟨hs, (binding_error_changes_nothing c (.run .exec s) rfl hs).2.1,
    (binding_error_changes_nothing c (.runWithin 0 .query s) rfl hs).2.1⟩

end Client
end BoundQuery
