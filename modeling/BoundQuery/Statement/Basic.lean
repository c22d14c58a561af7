import BoundQuery.Event
import BoundQuery.SqlValue.Binding
import BoundQuery.Statement.Compiled

/-!
# Statements

A statement is a query template and the values bound to it so far, by name or by
position. Compiling it leaves it as it is. Values bound by position bypass the
template: the query is sent as it is written, and its own question marks are
its slots.
-/

namespace BoundQuery

inductive BindingState where
  | unbound | namedBound | positionalBound
  deriving DecidableEq, Repr

structure Statement where
  template : Template
  named : Bindings
  positional : List SqlValue
  deriving DecidableEq

/-- A compiled statement: what is sent, the query it came from and the names it was bound by. -/
structure CompiledStatement extends PositionalQuery where
  source : String
  named : Bindings
  deriving DecidableEq

def SqlValue.equalAll : List SqlValue → List SqlValue → Bool
  | [], [] => true
  | v :: vs, w :: ws => v.equal w && equalAll vs ws
  | _, _ => false

def Bindings.equal (bs cs : Bindings) : Bool :=
  bs.map Prod.fst == cs.map Prod.fst && SqlValue.equalAll (bs.map Prod.snd) (cs.map Prod.snd)

namespace CompiledStatement

/-- Equality of compiled statements; one that holds a NaN equals none. -/
def equal (a b : CompiledStatement) : Bool :=
  a.source == b.source && a.sql == b.sql && SqlValue.equalAll a.args b.args && a.slots == b.slots &&
    a.named.equal b.named

end CompiledStatement

namespace Template

def parseLogged (g : Grammar) (query : String) : Logged Template := do
  let t := parse g query
  Logged.emit (.indexed t.total t.names.length)
  return t

@[simp] theorem parseLogged_value (g : Grammar) (query : String) :
    (parseLogged g query).value = parse g query := rfl

end Template

namespace Statement

def ofTemplate (t : Template) : Statement := ⟨t, [], []⟩

def ofQuery (g : Grammar) (query : String) : Statement := ofTemplate (.parse g query)

/-- A new statement; its query is read now and never again. -/
def ofQueryLogged (g : Grammar) (query : String) : Logged Statement := do
  return ofTemplate (← Template.parseLogged g query)

@[simp] theorem ofQueryLogged_value (g : Grammar) (query : String) :
    (ofQueryLogged g query).value = ofQuery g query := rfl

variable (s : Statement)

def query : String := s.template.query

def grammar : Grammar := s.template.grammar

/-- Whether the query has named parameters. -/
def isParameterized : Bool := s.template.total != 0

def positionalSql : String := s.template.positionalSql

def state : BindingState :=
  if s.named ≠ [] then .namedBound
  else if s.positional ≠ [] then .positionalBound
  else .unbound

theorem state_eq_namedBound_iff : s.state = .namedBound ↔ s.named ≠ [] := by
  unfold state
  split
  · simp [*]
  · split <;> simp_all

theorem state_eq_positionalBound_iff :
    s.state = .positionalBound ↔ s.named = [] ∧ s.positional ≠ [] := by
  unfold state
  split
  · simp [*]
  · split <;> simp_all

theorem state_eq_unbound_iff : s.state = .unbound ↔ s.named = [] ∧ s.positional = [] := by
  unfold state
  split
  · simp [*]
  · split <;> simp_all

def bindNamed {α : Type} [Bindable α] (name : String) (a : α) : Statement :=
  { s with named := s.named ++ [(name, toSqlValue a)] }

def bindNamedAll {α : Type} [Bindable α] (bindings : List (String × α)) : Statement :=
  { s with named := s.named ++ bindings.map fun b => (b.1, toSqlValue b.2) }

def bindPositional {α : Type} [Bindable α] (a : α) : Statement :=
  { s with positional := s.positional ++ [toSqlValue a] }

def bindPositionalAll {α : Type} [Bindable α] (values : List α) : Statement :=
  { s with positional := s.positional ++ values.map toSqlValue }

def clearBindings : Statement := { s with named := [], positional := [] }

/-- What is sent for the statement, or why nothing is. -/
def positionalQuery : Except Error PositionalQuery :=
  match s.named, s.positional with
  | _ :: _, _ :: _ => .error .mixedBindings
  | [], _ :: _ => .ok ⟨s.query, s.positional, nativeSlots s.query⟩
  | [], [] => if s.isParameterized then s.template.compile [] else .ok ⟨s.query, [], []⟩
  | _ :: _, [] => s.template.compile s.named

def compile : Except Error CompiledStatement :=
  s.positionalQuery.map fun q => { q with source := s.query, named := s.named }

/-- Compiles and reports a success. -/
def compileLogged : Logged (Except Error CompiledStatement) := do
  match s.compile with
  | .ok c =>
    Logged.emit (.compiled c.sql c.args.length)
    return .ok c
  | .error e => return .error e

@[simp] theorem compileLogged_value : s.compileLogged.value = s.compile := by
  unfold compileLogged
  split <;> simp_all

/-- Equality of statements: the same query, grammar and bindings. -/
def equal (a b : Statement) : Bool :=
  a.template == b.template && a.named.equal b.named && SqlValue.equalAll a.positional b.positional

@[simp] theorem template_bindNamed {α : Type} [Bindable α] (name : String) (a : α) :
    (s.bindNamed name a).template = s.template := rfl

@[simp] theorem template_bindNamedAll {α : Type} [Bindable α] (bindings : List (String × α)) :
    (s.bindNamedAll bindings).template = s.template := rfl

@[simp] theorem template_bindPositional {α : Type} [Bindable α] (a : α) :
    (s.bindPositional a).template = s.template := rfl

@[simp] theorem template_bindPositionalAll {α : Type} [Bindable α] (values : List α) :
    (s.bindPositionalAll values).template = s.template := rfl

@[simp] theorem template_clearBindings : s.clearBindings.template = s.template := rfl

end Statement
end BoundQuery
