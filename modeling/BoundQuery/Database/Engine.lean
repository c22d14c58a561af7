import BoundQuery.Database.RowStream
import BoundQuery.Database.Store

/-!
# Engines

An engine runs the texts that statements compile to. It is known by what it
keeps for one connection and by how each use of the connection changes that; it
answers by what it keeps, the text and the arguments, and by nothing else. The
store is one such engine.
-/

namespace BoundQuery

/-- An engine with its driver's codecs, by what it keeps for one connection. A use that may fail says
whether it went well, and what is kept afterwards either way. -/
class Engine (σ : Type) where
  Argument : Type
  Column : Type
  [argumentCodec : ArgumentCodec Argument]
  [columnCodec : ColumnCodec Column]
  /-- The columns that a text yields, if the engine accepts the text. -/
  columns? (s : σ) (sql : String) : Option (List String)
  /-- Runs a text to its end: the rows that it changed and the newest key. -/
  execute (s : σ) (sql : String) (args : List Argument) : Option (Nat × Int) × σ
  fetch (s : σ) (sql : String) (args : List Argument) : RowStream Column σ
  /-- Runs a text for one row and no more, if it has one. -/
  fetchOptional (s : σ) (sql : String) (args : List Argument) :
    Option (Option (List Column)) × σ
  begin (s : σ) : Bool × σ
  commit (s : σ) : Bool × σ
  /-- Undoes a transaction, given what was kept when it began. -/
  rollBack (begun now : σ) : Bool × σ

attribute [reducible, instance] Engine.argumentCodec Engine.columnCodec

/-- Whether an engine steps to one row at a time and finds the same rows each time: asked for one
row, it goes as far as the first step to all of them. -/
structure Engine.StepsInOrder (σ : Type) [Engine σ] : Prop where
  row (s : σ) (sql : String) (args : List (Argument σ)) :
    RowStream.once (fetchOptional s sql args).1 = (fetch s sql args).items.take 1
  kept (s : σ) (sql : String) (args : List (Argument σ)) :
    (fetchOptional s sql args).2 = (fetch s sql args).after 1

/-- The rows that a command yields one by one, and a failure at the end if one comes. -/
def Execution.items (e : Execution) : List (Option (List Storage)) :=
  e.rows.map (fun row => some (row.map bindValue)) ++ e.failAt.toList.map fun _ => none

namespace Store

variable (s : Store)

/-- Runs a text with its arguments, if it is a command. -/
def runText? (sql : String) (args : List Storage) : Option Execution :=
  (Command.ofText? sql).map fun c => c.run (args.map Storage.value) s

/-- What executing a text reports of the store afterwards: the rows changed and the newest key. A
text without a command reports neither. -/
def summary (sql : String) : Nat × Int :=
  if Command.ofText? sql = some .nothing then (0, 0) else (s.changes, s.lastInsertId)

end Store

/-- The store runs a command whole before its first row is read. Undoing a transaction brings back
the rows, but neither the newest key nor the count of the last write. -/
instance : Engine Store where
  Argument := Storage
  Column := Storage
  columns? _ sql := (Command.ofText? sql).map Command.columns
  execute s sql args :=
    match s.runText? sql args with
    | none => (none, s)
    | some e =>
      match e.failAt with
      | some _ => (none, e.store)
      | none => (some (e.store.summary sql), e.store)
  fetch s sql args :=
    match s.runText? sql args with
    | none => ⟨[none], fun _ => s⟩
    | some e => ⟨e.items, fun _ => e.store⟩
  fetchOptional s sql args :=
    match s.runText? sql args with
    | none => (none, s)
    | some e =>
      match e.items with
      | [] => (some none, e.store)
      | item :: _ => (item.map some, e.store)
  begin s := (true, s)
  commit s := (true, s)
  rollBack begun now := (true, { now with rows := begun.rows })

theorem Store.stepsInOrder : Engine.StepsInOrder Store := by
  constructor
  · intro s sql args
    simp only [Engine.fetchOptional, Engine.fetch]
    cases s.runText? sql args with
    | none => rfl
    | some e =>
      dsimp only
      cases e.items with
      | nil => rfl
      | cons item items => cases item <;> rfl
  · intro s sql args
    simp only [Engine.fetchOptional, Engine.fetch]
    cases s.runText? sql args with
    | none => rfl
    | some e =>
      dsimp only
      cases e.items <;> rfl

end BoundQuery
