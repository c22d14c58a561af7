import BoundQuery.Config.Basic
import BoundQuery.Database.Engine

/-!
# Pools

A pool lends its connection to one caller at a time and takes it back. Nothing
else is known of it but what it answers to a caller, so that pools of any kind
may stand here. A caller without the connection waits for it, and is given up by
the pool in the end; a limit of the caller's own may end the wait before.
-/

namespace BoundQuery

/-- What asking a pool for its connection comes to, while nobody gives the connection back. -/
inductive Asked (π : Type) where
  | lent (rest : π)
  | closed
  /-- The pool gives the caller up after so long. -/
  | waits (patience : Duration)

/-- A kind of pool, by what it keeps. -/
class Lending (π : Type) where
  ask (p : π) : Asked π
  giveBack (p : π) : π

/-- Whether a pool lends a single connection. Asked for it while it is there, the pool lends it;
while it is out, the caller waits. A connection that is given back is there again. -/
structure Lending.Sole {π : Type} [Lending π] (idle out : π → Prop) (patience : Duration) :
    Prop where
  ask_of_idle {p : π} : idle p → ∃ rest, ask p = .lent rest ∧ out rest
  ask_of_out {p : π} : out p → ask p = .waits patience
  idle_giveBack {p : π} : out p → idle (giveBack p)

/-- A pool that was opened for one connection. -/
structure Lender where
  isClosed : Bool
  inUse : Bool
  patience : Duration
  deriving DecidableEq

namespace Lender

/-- A new pool waits for half a minute. -/
def opened : Lender := ⟨false, false, ⟨30, 0⟩⟩

instance : Lending Lender where
  ask p :=
    if p.isClosed then .closed
    else if p.inUse then .waits p.patience
    else .lent { p with inUse := true }
  giveBack p := { p with inUse := false }

/-- Closes the pool, unless the connection is still to come back. -/
def close? (p : Lender) : Option Lender :=
  if p.inUse then none else some { p with isClosed := true }

end Lender

/-- A pool with what the engine keeps for its connection. -/
structure Pool (π : Type := Lender) (σ : Type := Store) where
  store : σ
  lender : π
  deriving DecidableEq

namespace Pool

def opened : Pool := ⟨.empty, .opened⟩

variable {π σ : Type} (p : Pool π σ)

def withStore (s : σ) : Pool π σ := { p with store := s }

@[simp] theorem store_withStore (s : σ) : (p.withStore s).store = s := rfl

@[simp] theorem lender_withStore (s : σ) : (p.withStore s).lender = p.lender := rfl

variable [Lending π]

/-- How a wait ends for a caller with a limit: by the limit or by the pool, whichever is first. -/
def giveUp (limit : Option Duration) (patience : Duration) : DbError :=
  match limit with
  | some d => if d < patience then .timeout d else .driver
  | none => .driver

/-- Asks for the connection with this much time: the pool while the caller has it. -/
def acquire (limit : Option Duration) : Except DbError (Pool π σ) :=
  match Lending.ask p.lender with
  | .lent rest => .ok { p with lender := rest }
  | .closed => .error .driver
  | .waits patience => .error (giveUp limit patience)

def released : Pool π σ := { p with lender := Lending.giveBack p.lender }

@[simp] theorem store_released : p.released.store = p.store := rfl

theorem store_of_acquire {limit : Option Duration} {lent : Pool π σ}
    (h : p.acquire limit = .ok lent) : lent.store = p.store := by
  unfold acquire at h
  split at h
  · obtain rfl := Except.ok.inj h
    rfl
  · cases h
  · cases h

end Pool

namespace Lending.Sole

variable {π σ : Type} [Lending π] {idle out : π → Prop} {patience : Duration}
  (hpool : Lending.Sole idle out patience)

include hpool

theorem acquire_of_out {p : Pool π σ} (hout : out p.lender) (limit : Option Duration) :
    p.acquire limit = .error (Pool.giveUp limit patience) := by
  rw [Pool.acquire, hpool.ask_of_out hout]

theorem acquire_of_idle {p : Pool π σ} (hidle : idle p.lender) :
    ∃ lent, (∀ limit, p.acquire limit = .ok lent) ∧ out lent.lender := by
  obtain ⟨rest, hlent, hout⟩ := hpool.ask_of_idle hidle
  refine ⟨{ p with lender := rest }, ?_, hout⟩
  intro limit
  rw [Pool.acquire, hlent]

end Lending.Sole
end BoundQuery
