import BoundQuery.Proofs.ClientSteps

/-!
# The holder of the connection

The only connection is with the pool, or with its one holder: a result of the
client's own that was not yet used up, or a transaction that was not yet ended.
The count of holders follows the connection through every step, and a result
that was used up stays so.
-/

namespace BoundQuery

open Session (Answer)

namespace Client

variable {π σ : Type} {c : Client π σ} {place : Place} {r : QueryResult} {limit : Duration}

/-- Whether there is a result that was not yet used up. -/
def isUnread (r : Option QueryResult) : Bool := r.any fun r => !r.isClosed

/-- How many there are to hold the connection: the results of the client's own that were not yet used
up, and the transactions that were not yet ended. -/
def holders (c : Client π σ) : Nat :=
  c.results.countP isUnread + c.transactions.countP Option.isSome

section Counts

variable {i : Nat}

theorem holders_settle (o : Outcome π σ) :
    (c.settle o).2.holders = c.holders + if isUnread o.opened then 1 else 0 := by
  simp only [settle, holders, withPool, List.countP_append]
  cases o.opened with
  | none => simp [isUnread]
  | some r => simp [List.countP_cons]; omega

theorem holders_putResult_own (hr : c.result? (.own i) = some r) {x : Option QueryResult}
    (hx : isUnread x = false) :
    (c.putResult (.own i) x).holders + (if r.isClosed then 0 else 1) = c.holders := by
  have hi := result?_own_eq_some_iff.1 hr
  obtain ⟨hlt, hget⟩ := List.getElem?_eq_some_iff.1 hi
  simp only [putResult, holders, List.countP_set hlt, hget, hx]
  cases hclosed : r.isClosed with
  | true =>
    have hread : isUnread (some r) = false := by simp [isUnread, hclosed]
    simp [hread]
  | false =>
    have hunread : isUnread (some r) = true := by simp [isUnread, hclosed]
    have hpos : 0 < c.results.countP isUnread :=
      List.countP_pos_iff.2 ⟨some r, List.mem_of_getElem? hi, hunread⟩
    simp only [hunread, if_true, Bool.false_eq_true, if_false]
    omega

theorem countP_isSome_modify {α : Type} (l : List (Option α)) (i : Nat) (f : α → α) :
    (l.modify i (Option.map f)).countP Option.isSome = l.countP Option.isSome := by
  induction l generalizing i with
  | nil => simp
  | cons a l ih =>
    cases i with
    | zero => cases a <;> simp
    | succ i => simp [List.countP_cons, ih]

theorem holders_putResult_lent (x : Option QueryResult) :
    (c.putResult (.lent i) x).holders = c.holders := by
  rw [holders, putResult, countP_isSome_modify, holders]

theorem holders_withoutTransaction {t : OpenTransaction σ}
    (ht : c.transactions[i]? = some (some t)) (p : Pool π σ) :
    (c.withoutTransaction i p).holders + 1 = c.holders := by
  obtain ⟨hlt, hget⟩ := List.getElem?_eq_some_iff.1 ht
  have hpos : 0 < c.transactions.countP Option.isSome :=
    List.countP_pos_iff.2 ⟨some t, List.mem_of_getElem? ht, rfl⟩
  simp only [withoutTransaction, withPool, holders, List.countP_set hlt, hget]
  simp
  omega

end Counts

/-- Whether the connection of a client is where its results and transactions have it. -/
structure Sound (idle out : π → Prop) (limit : Duration) (c : Client π σ) : Prop
    extends Limited limit c where
  handle : ∀ {place r h}, c.result? place = some r → r.handle = some h → h = place.handle
  held : idle c.db.pool.lender ∧ c.holders = 0 ∨ out c.db.pool.lender ∧ c.holders = 1

namespace Sound

variable {idle out : π → Prop} (h : c.Sound idle out limit)

include h

theorem out_of_holders_pos (hpos : 0 < c.holders) : out c.db.pool.lender ∧ c.holders = 1 := by
  obtain ⟨-, hnone⟩ | hone := h.held
  · omega
  · exact hone

theorem putResult (p : Pool π σ) {x : Option QueryResult}
    (hx : ∀ {r handle}, x = some r → r.handle = some handle → handle = place.handle)
    (hheld : idle p.lender ∧ ((c.withPool p).putResult place x).holders = 0 ∨
      out p.lender ∧ ((c.withPool p).putResult place x).holders = 1) :
    ((c.withPool p).putResult place x).Sound idle out limit := by
  have hpool : ((c.withPool p).putResult place x).db.pool = p := by rw [db_putResult, pool_withPool]
  refine ⟨⟨?_, ?_⟩, ?_, ?_⟩
  · rw [db_putResult]
    exact h.timeout
  · rw [prepared_putResult]
    exact h.prepared
  · intro place' r handle hr hhandle
    obtain ⟨rfl, hput⟩ | hold := result?_putResult_cases hr
    · exact hx hput hhandle
    · rw [result?_withPool] at hold
      exact h.handle hold hhandle
  · rwa [hpool]

theorem runWithin {i : Nat} {o : Outcome π σ} (ho : o.RanWithin c.db.pool) :
    ((c.withPool o.pool).putResult (.lent i) o.opened).Sound idle out limit := by
  cases ho with
  | kept answer store =>
    apply h.putResult (c.db.pool.withStore store)
    · intro r handle hr
      cases hr
    · rw [holders_putResult_lent]
      exact h.held
  | lent answer hborrowed =>
    apply h.putResult c.db.pool
    · intro r handle hr hhandle
      cases hr
      rw [hborrowed] at hhandle
      exact (Option.some.inj hhandle).symm
    · rw [holders_putResult_lent]
      exact h.held

end Sound

variable [Lending π] {idle out : π → Prop} {patience : Duration}

namespace Sound

variable (h : c.Sound idle out limit)

include h

/-- Whoever has the connection from the pool has it alone. -/
theorem of_lent (hpool : Lending.Sole idle out patience) {limit' : Option Duration}
    {lent : Pool π σ} (hlent : c.db.pool.acquire limit' = .ok lent) :
    out lent.lender ∧ c.holders = 0 := by
  obtain ⟨hidle, hnone⟩ | ⟨hout, -⟩ := h.held
  · obtain ⟨lent', hlent', hout⟩ := hpool.acquire_of_idle hidle
    obtain rfl := Except.ok.inj ((hlent' limit').symm.trans hlent)
    exact ⟨hout, hnone⟩
  · rw [hpool.acquire_of_out hout] at hlent
    cases hlent

theorem close_own {i : Nat} (hr : c.result? (.own i) = some r) (hclosed : r.isClosed = false)
    (p : Pool π σ) : (r.close p).2 = p.released := by
  cases hhandle : r.handle with
  | none => simp [QueryResult.isClosed, hhandle] at hclosed
  | some handle =>
    obtain rfl := h.handle hr hhandle
    rw [QueryResult.close, hhandle]
    rfl

theorem close_lent {i : Nat} (hr : c.result? (.lent i) = some r) (p : Pool π σ) :
    (r.close p).2 = p := by
  cases hhandle : r.handle with
  | none => rw [QueryResult.close, hhandle]
  | some handle =>
    obtain rfl := h.handle hr hhandle
    rw [QueryResult.close, hhandle]
    rfl

theorem settle (hpool : Lending.Sole idle out patience) {limit' : Option Duration}
    {lent : Pool π σ} (hlent : c.db.pool.acquire limit' = .ok lent) {o : Outcome π σ}
    (ho : o.Ran lent) : (c.settle o).2.Sound idle out limit := by
  obtain ⟨hout, hnone⟩ := h.of_lent hpool hlent
  have hholders := holders_settle (c := c) o
  cases ho with
  | back hanswer hdone store =>
    refine ⟨⟨h.timeout, h.prepared⟩, ?_, .inl ⟨hpool.idle_giveBack hout, ?_⟩⟩
    · intro place r handle hr
      obtain ⟨hopened, -⟩ | hold := result?_settle_cases hr
      · cases hopened
      · exact h.handle hold
    · rw [hholders, hnone]
      rfl
  | held hpooled =>
    refine ⟨⟨h.timeout, h.prepared⟩, ?_, .inr ⟨hout, ?_⟩⟩
    · intro place r handle hr hhandle
      obtain ⟨hopened, i, rfl⟩ | hold := result?_settle_cases hr
      · cases hopened
        rw [hpooled] at hhandle
        exact (Option.some.inj hhandle).symm
      · exact h.handle hold hhandle
    · rw [hholders, hnone]
      simp [isUnread, QueryResult.isClosed, hpooled]

theorem begin (hpool : Lending.Sole idle out patience) {limit' : Option Duration}
    {lent : Pool π σ} (hlent : c.db.pool.acquire limit' = .ok lent) (t : Transaction σ)
    (store : σ) :
    Sound idle out limit { c.withPool (lent.withStore store) with
      transactions := c.transactions ++ [some ⟨t, none⟩] } := by
  obtain ⟨hout, hnone⟩ := h.of_lent hpool hlent
  refine ⟨⟨h.timeout, h.prepared⟩, ?_, .inr ⟨hout, ?_⟩⟩
  · intro place r handle hr
    rw [result?_began] at hr
    exact h.handle hr
  · simp only [holders, List.countP_append] at hnone ⊢
    simp [withPool]
    omega

theorem withoutTransaction (hpool : Lending.Sole idle out patience) {i : Nat} {t : Transaction σ}
    (ht : c.transactions[i]? = some (some ⟨t, none⟩)) (store : σ) :
    (c.withoutTransaction i (c.db.pool.withStore store).released).Sound idle out limit := by
  have hcount := holders_withoutTransaction ht (c.db.pool.withStore store).released
  obtain ⟨hout, hone⟩ := h.out_of_holders_pos (by omega)
  refine ⟨⟨h.timeout, h.prepared⟩, ?_, .inl ⟨hpool.idle_giveBack hout, by omega⟩⟩
  intro place r handle hr
  rw [result?_withoutTransaction ht] at hr
  exact h.handle hr

/-- Giving up a result gives the connection back if the result had it. -/
theorem close (hpool : Lending.Sole idle out patience) (hr : c.result? place = some r) (store : σ)
    {x : Option QueryResult} (hx : ∀ r', x = some r' → r'.isClosed = true) :
    ((c.withPool (r.close (c.db.pool.withStore store)).2).putResult place x).Sound
      idle out limit := by
  have hnone : ∀ {r' handle}, x = some r' → r'.handle = some handle → handle = place.handle := by
    intro r' handle hput hhandle
    have hclosed := hx r' hput
    rw [QueryResult.isClosed, hhandle] at hclosed
    cases hclosed
  have hread : isUnread x = false := by
    cases x with
    | none => rfl
    | some r' => simp [isUnread, hx r' rfl]
  cases place with
  | lent i =>
    rw [h.close_lent hr]
    apply h.putResult (c.db.pool.withStore store) hnone
    rw [holders_putResult_lent]
    exact h.held
  | own i =>
    have hcount := holders_putResult_own hr hread
    cases hclosed : r.isClosed with
    | true =>
      rw [QueryResult.close_of_isClosed hclosed]
      apply h.putResult (c.db.pool.withStore store) hnone
      have hsame : (c.putResult (.own i) x).holders = c.holders := by simpa [hclosed] using hcount
      have hheld := h.held
      rwa [← hsame] at hheld
    | false =>
      rw [h.close_own hr hclosed]
      apply h.putResult (c.db.pool.withStore store).released hnone
      have hgone : (c.putResult (.own i) x).holders + 1 = c.holders := by
        simpa [hclosed] using hcount
      obtain ⟨hout, hone⟩ := h.out_of_holders_pos (by omega)
      refine .inl ⟨hpool.idle_giveBack hout, ?_⟩
      change (c.putResult (.own i) x).holders = 0
      omega

end Sound

theorem Sound.of_step (hpool : Lending.Sole idle out patience) (h : c.Sound idle out limit)
    {call : Call} {c' : Client π σ} (hstep : Step limit c call c') : c'.Sound idle out limit := by
  cases hstep with
  | same => exact h
  | edited hprepared => exact ⟨⟨h.timeout, hprepared⟩, h.handle, h.held⟩
  | returned hlent hprepared store =>
    obtain ⟨hout, hnone⟩ := h.of_lent hpool hlent
    exact ⟨⟨h.timeout, hprepared⟩, h.handle, .inl ⟨hpool.idle_giveBack hout, hnone⟩⟩
  | ran hlent ho => exact h.settle hpool hlent ho
  | began hlent t store => exact h.begin hpool hlent t store
  | ranWithin ht ho => exact h.runWithin ho
  | ended ht store => exact h.withoutTransaction hpool ht store
  | used hr store =>
    apply h.close hpool hr store
    intro r' hr'
    cases hr'
    exact QueryResult.isClosed_close ..
  | dropped hr => exact h.close hpool hr c.db.pool.store (by simp)

variable [Engine σ]

theorem Sound.after (hpool : Lending.Sole idle out patience) (h : c.Sound idle out limit)
    (calls : List Call) : (c.after calls).Sound idle out limit := by
  induction calls generalizing c with
  | nil => exact h
  | cons call calls ih => exact ih (h.of_step hpool (h.toLimited.step call))

end Client
end BoundQuery
