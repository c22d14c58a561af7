import BoundQuery.Proofs.Holders

/-!
# One holder at a time

What those who use a client see of its only connection, for any pool that lends a
single one. While there is a holder, whoever else asks for the connection is told
so once the limit has passed, or given up by the pool if that is less patient, and
nothing is changed by that; as soon as the holder is gone, the same call comes to
what it comes to with the connection. A holder goes by any use of its result or by
the end of its transaction, and a result that was used once is used up.
-/

namespace BoundQuery

open Session (Answer)

namespace Client

variable {π σ : Type} {c : Client π σ} {place : Place} {r : QueryResult} {limit : Duration}

namespace Call

/-- The calls that succeed by making a holder. -/
inductive Opens : Call → Prop
  | run (s : Statement) : Opens (.run .query s)
  | runPrepared (i : Nat) : Opens (.runPrepared .query i)
  | begin : Opens .begin

/-- The calls in a transaction and on its results. -/
inductive Within : Call → Prop
  | run (i : Nat) (verb : Verb) (s : Statement) : Within (.runWithin i verb s)
  | use (i : Nat) (u : Use) : Within (.use (.lent i) u)
  | dropResult (i : Nat) : Within (.dropResult (.lent i))

end Call

/-- The transactions that were begun, by their places. -/
def begun (c : Client π σ) : List (Option (Transaction σ)) :=
  c.transactions.map (Option.map OpenTransaction.transaction)

theorem begun_putResult (place : Place) (x : Option QueryResult) :
    (c.putResult place x).begun = c.begun := by
  cases place with
  | own i => rfl
  | lent i =>
    apply List.ext_getElem?
    intro j
    simp only [begun, putResult, List.getElem?_map, List.getElem?_modify]
    cases c.transactions[j]? with
    | none => rfl
    | some t => by_cases hij : i = j <;> cases t <;> simp [hij]

section Served

variable [Lending π] [Engine σ]

end Served

variable [Lending π] [Engine σ] {idle out : π → Prop} {patience : Duration}

section Answers

variable (hpool : Lending.Sole idle out patience) (h : c.Sound idle out limit)

include h

theorem Sound.kept {call : Call} (hcall : call.Within) :
    (c.call call).value.2.begun = c.begun ∧
      (c.call call).value.2.db.pool.lender = c.db.pool.lender := by
  cases hcall with
  | run i verb s =>
    obtain ⟨t, ht⟩ | habsent := c.onTransaction_cases i
    · obtain ⟨o, ho, hvalue⟩ := value_runWithin_eq ht verb s
      rw [hvalue, begun_putResult, db_putResult, pool_withPool]
      cases ho <;> exact ⟨rfl, rfl⟩
    · simp only [Client.call, habsent]
      exact ⟨rfl, rfl⟩
  | use i u =>
    cases hr : c.result? (.lent i) with
    | some r =>
      obtain ⟨answer, store, hvalue⟩ := value_use_eq hr u
      rw [hvalue, begun_putResult, db_putResult, pool_withPool, h.close_lent hr]
      exact ⟨rfl, rfl⟩
    | none =>
      simp only [Client.call, hr]
      exact ⟨rfl, rfl⟩
  | dropResult i =>
    cases hr : c.result? (.lent i) with
    | some r =>
      simp only [Client.call, hr, Logged.value_pure]
      rw [begun_putResult, db_putResult, pool_withPool, h.close_lent hr]
      exact ⟨rfl, rfl⟩
    | none =>
      simp only [Client.call, hr]
      exact ⟨rfl, rfl⟩

include hpool

theorem Sound.out_settle_of_done (s : Statement) {found : Finding σ}
    (hfound : ∀ store compiled limit, found store compiled ≠ .error (.timeout limit)) (verb : Verb)
    (hdone : (c.settle ((c.db.pool.runs (some limit) s found).perform verb).value).1 = .done) :
    out (c.settle ((c.db.pool.runs (some limit) s found).perform verb).value).2.db.pool.lender := by
  obtain ⟨e, hfailing⟩ | ⟨compiled, lent, hlent, hserved⟩ :=
    c.db.pool.value_perform_runs_cases (some limit) s found verb
  · rw [hfailing, settle_failing] at hdone
    cases hdone
  · rw [hserved] at hdone ⊢
    have hlender := (Pool.served_ran hfound lent compiled verb).lender_of_done hdone
    exact hlender ▸ (h.of_lent hpool hlent).1

theorem Sound.made {call : Call} (hcall : call.Opens) (hdone : (c.call call).value.1 = .done) :
    out (c.call call).value.2.db.pool.lender := by
  cases hcall with
  | run s =>
    rw [value_run_eq h.toLimited] at hdone ⊢
    exact h.out_settle_of_done hpool s (fun _ _ _ => Driver.describe_ne_timeout _ _ _) .query hdone
  | runPrepared i =>
    cases hps : c.prepared[i]? with
    | some ps =>
      rw [value_runPrepared_eq h.toLimited hps] at hdone ⊢
      exact h.out_settle_of_done hpool ps.statement (by simp) .query hdone
    | none =>
      simp only [Client.call, hps] at hdone
      cases hdone
  | begin =>
    cases hlent : c.db.pool.acquire none with
    | error e =>
      rw [value_begin_of_refused hlent] at hdone
      cases hdone
    | ok lent =>
      rw [value_begin_of_lent hlent] at hdone ⊢
      split at hdone
      · next hbegin =>
        rw [if_pos hbegin]
        exact (h.of_lent hpool hlent).1
      · cases hdone

end Answers

end Client
end BoundQuery
