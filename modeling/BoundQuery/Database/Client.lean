import BoundQuery.Database.Session

/-!
# Clients

A client works on one database with any number of prepared statements,
transactions and results at a time. A result of its own has its connection from
the pool. A transaction is lent to a result opened in it and can do nothing else
until that result is dropped. Calls name what they are made on by its place in
the order of opening, which stays empty once it is over; where nothing is, or it
is lent, the answer is that it is absent.
-/

namespace BoundQuery

open Session (Answer)

/-- What can be done with a statement. -/
inductive Verb where
  | exec | query | queryRow
  deriving DecidableEq, Repr

/-- What running a statement comes to: its answer, the result that it opened, and the pool. -/
structure Outcome (π σ : Type) where
  answer : Answer
  opened : Option QueryResult
  pool : Pool π σ

namespace Outcome

variable {π σ : Type}

/-- The outcome of a run that opens no result, given how its success is answered. -/
def settled {α : Type} (f : α → Answer) (result : Except DbError α × Pool π σ) : Outcome π σ :=
  ⟨.ofExcept f result.1, none, result.2⟩

def opening : Except DbError QueryResult × Pool π σ → Outcome π σ
  | (.ok r, p) => ⟨.done, some r, p⟩
  | (.error e, p) => ⟨.failed e, none, p⟩

end Outcome

/-- The runs of one statement in one place. -/
structure Runs (π σ : Type) where
  exec : Logged (Except DbError ExecResult × Pool π σ)
  query : Logged (Except DbError QueryResult × Pool π σ)
  queryRow : Logged (Except DbError Row × Pool π σ)

def Runs.perform {π σ : Type} (runs : Runs π σ) : Verb → Logged (Outcome π σ)
  | .exec => do return .settled .executed (← runs.exec)
  | .query => do return .opening (← runs.query)
  | .queryRow => do return .settled .row (← runs.queryRow)

section Places

variable {π σ : Type} [Lending π] [Engine σ]

def Database.runs (db : Database π σ) (s : Statement) : Runs π σ :=
  ⟨db.exec s, db.query s, db.queryRow s⟩

def PreparedStatement.runs (ps : PreparedStatement) (p : Pool π σ) : Runs π σ :=
  ⟨ps.exec p, ps.query p, ps.queryRow p⟩

/-- A transaction has its connection, so that it never waits. -/
def Transaction.runs (t : Transaction σ) (s : Statement) (p : Pool π σ) : Runs π σ :=
  ⟨t.exec s p, t.query s p, t.queryRow s p⟩

end Places

/-- What can be done with a result, again and again. -/
inductive Use where
  | fetchAll
  | fetchOne
  | fetchTyped (T : RecordType)
  | close

def Use.isFetch : Use → Prop
  | .close => False
  | _ => True

def QueryResult.use {π σ : Type} [Lending π] [Engine σ] (r : QueryResult) (p : Pool π σ) :
    Use → Logged (Answer × QueryResult × Pool π σ)
  | .fetchAll => do
    let (result, kept) ← r.fetchAll p
    return (.ofExcept .rows result, kept)
  | .fetchOne => do
    let (result, kept) ← r.fetchOne p
    return (.ofExcept .row result, kept)
  | .fetchTyped T => do
    let (result, kept) ← r.fetchTyped T p
    return (.ofExcept (.records T) result, kept)
  | .close => pure (.done, r.close p)

/-- A transaction that was not ended, and the result that it is lent to. -/
structure OpenTransaction (σ : Type) where
  transaction : Transaction σ
  result : Option QueryResult

structure Client (π σ : Type) where
  db : Database π σ
  prepared : List PreparedStatement
  transactions : List (Option (OpenTransaction σ))
  results : List (Option QueryResult)

namespace Client

/-- Where a result is: among those of the client, or in a transaction. -/
inductive Place where
  | own (i : Nat)
  | lent (i : Nat)
  deriving DecidableEq, Repr

inductive Call where
  | run (verb : Verb) (s : Statement)
  | prepare (query : String)
  | bindNamed (i : Nat) (name : String) (v : SqlValue)
  | bindNamedAll (i : Nat) (bindings : Bindings)
  | clearBindings (i : Nat)
  | runPrepared (verb : Verb) (i : Nat)
  | begin
  | runWithin (i : Nat) (verb : Verb) (s : Statement)
  | commit (i : Nat)
  | rollback (i : Nat)
  | dropTransaction (i : Nat)
  | use (place : Place) (u : Use)
  | dropResult (place : Place)

variable {π σ : Type}

def start (db : Database π σ) : Client π σ := ⟨db, [], [], []⟩

variable (c : Client π σ)

def withPool (p : Pool π σ) : Client π σ := { c with db := c.db.withPool p }

/-- Takes over the outcome of a run on the pool, with the result that it opened. -/
def settle (o : Outcome π σ) : Answer × Client π σ :=
  (o.answer, { c.withPool o.pool with results := c.results ++ o.opened.toList.map some })

def updatePrepared (i : Nat) (f : PreparedStatement → PreparedStatement) : Answer × Client π σ :=
  match c.prepared[i]? with
  | some ps => (.done, { c with prepared := c.prepared.set i (f ps) })
  | none => (.absent, c)

/-- Makes a call on a transaction that is not lent. -/
def onTransaction (i : Nat) (f : Transaction σ → Logged (Answer × Client π σ)) :
    Logged (Answer × Client π σ) :=
  match c.transactions[i]? with
  | some (some ⟨t, none⟩) => f t
  | _ => pure (.absent, c)

/-- The client once a transaction is over. -/
def withoutTransaction (i : Nat) (p : Pool π σ) : Client π σ :=
  { c.withPool p with transactions := c.transactions.set i none }

def result? : Place → Option QueryResult
  | .own i => c.results[i]?.join
  | .lent i => c.transactions[i]?.join.bind OpenTransaction.result

/-- Puts a result back in its place, or leaves the place empty. -/
def putResult (place : Place) (r : Option QueryResult) : Client π σ :=
  match place with
  | .own i => { c with results := c.results.set i r }
  | .lent i =>
    { c with transactions := c.transactions.modify i (Option.map fun t => { t with result := r }) }

@[simp] theorem pool_withPool (p : Pool π σ) : (c.withPool p).db.pool = p := rfl

@[simp] theorem config_withPool (p : Pool π σ) : (c.withPool p).db.config = c.db.config := rfl

@[simp] theorem prepared_withPool (p : Pool π σ) : (c.withPool p).prepared = c.prepared := rfl

@[simp] theorem config_settle (o : Outcome π σ) : (c.settle o).2.db.config = c.db.config := rfl

@[simp] theorem prepared_settle (o : Outcome π σ) : (c.settle o).2.prepared = c.prepared := rfl

@[simp] theorem config_updatePrepared (i : Nat) (f : PreparedStatement → PreparedStatement) :
    (c.updatePrepared i f).2.db.config = c.db.config := by
  unfold updatePrepared
  split <;> rfl

@[simp] theorem config_withoutTransaction (i : Nat) (p : Pool π σ) :
    (c.withoutTransaction i p).db.config = c.db.config := rfl

@[simp] theorem prepared_withoutTransaction (i : Nat) (p : Pool π σ) :
    (c.withoutTransaction i p).prepared = c.prepared := rfl

@[simp] theorem db_putResult (place : Place) (r : Option QueryResult) :
    (c.putResult place r).db = c.db := by
  cases place <;> rfl

@[simp] theorem prepared_putResult (place : Place) (r : Option QueryResult) :
    (c.putResult place r).prepared = c.prepared := by
  cases place <;> rfl

variable [Lending π] [Engine σ]

def call (c : Client π σ) : Call → Logged (Answer × Client π σ)
  | .run verb s => do return c.settle (← (c.db.runs s).perform verb)
  | .prepare query => do
    match ← c.db.prepare query with
    | (.ok ps, p) => return (.done, { c.withPool p with prepared := c.prepared ++ [ps] })
    | (.error e, p) => return (.failed e, c.withPool p)
  | .bindNamed i name v => pure (c.updatePrepared i (·.bindNamed name v))
  | .bindNamedAll i bindings => pure (c.updatePrepared i (·.bindNamedAll bindings))
  | .clearBindings i => pure (c.updatePrepared i (·.clearBindings))
  | .runPrepared verb i =>
    match c.prepared[i]? with
    | some ps => do return c.settle (← (ps.runs c.db.pool).perform verb)
    | none => pure (.absent, c)
  | .begin => do
    match ← c.db.begin with
    | (.ok t, p) =>
      return (.done, { c.withPool p with transactions := c.transactions ++ [some ⟨t, none⟩] })
    | (.error e, p) => return (.failed e, c.withPool p)
  | .runWithin i verb s => c.onTransaction i fun t => do
    let o ← (t.runs s c.db.pool).perform verb
    return (o.answer, (c.withPool o.pool).putResult (.lent i) o.opened)
  | .commit i => c.onTransaction i fun t => do
    let (result, p) ← t.commit c.db.pool
    return (.ofExcept (fun _ => .done) result, c.withoutTransaction i p)
  | .rollback i => c.onTransaction i fun t => do
    let (result, p) ← t.rollback c.db.pool
    return (.ofExcept (fun _ => .done) result, c.withoutTransaction i p)
  | .dropTransaction i =>
    c.onTransaction i fun t => pure (.done, c.withoutTransaction i (t.drop c.db.pool))
  | .use place u =>
    match c.result? place with
    | some r => do
      let (answer, r, p) ← r.use c.db.pool u
      return (answer, (c.withPool p).putResult place (some r))
    | none => pure (.absent, c)
  | .dropResult place =>
    match c.result? place with
    | some r => pure (.done, (c.withPool (r.close c.db.pool).2).putResult place none)
    | none => pure (.absent, c)

def run (c : Client π σ) : List Call → Logged (List Answer × Client π σ)
  | [] => pure ([], c)
  | call :: calls => do
    let (answer, c) ← c.call call
    let (answers, c) ← run c calls
    return (answer :: answers, c)

/-- The client after a sequence of calls. -/
def after (calls : List Call) : Client π σ := (c.run calls).value.2

@[simp] theorem after_nil : c.after [] = c := rfl

@[simp] theorem after_cons (call : Call) (calls : List Call) :
    c.after (call :: calls) = (c.call call).value.2.after calls := rfl

theorem after_append (calls later : List Call) :
    c.after (calls ++ later) = (c.after calls).after later := by
  induction calls generalizing c with
  | nil => rfl
  | cons call calls ih => exact ih _

end Client
end BoundQuery
