import BoundQuery.Statement.Basic

/-!
# Working on a statement

A draft is a statement under work with a saved copy to go back to and the newest
form it compiled to. Saving and going back change no binding history but the
draft's own, and compiling changes only the newest form.
-/

namespace BoundQuery

structure Draft where
  statement : Statement
  saved : Option Statement
  newest : Option CompiledStatement

/-- The newest compiled form and whether compiling now would give an equal one. -/
structure Draft.Latest where
  compiled : CompiledStatement
  isCurrent : Bool

namespace Draft

def ofStatement (s : Statement) : Draft := ⟨s, none, none⟩

variable (d : Draft)

def update (f : Statement → Statement) : Draft := { d with statement := f d.statement }

def save : Draft := { d with saved := some d.statement }

def restore : Draft :=
  match d.saved with
  | some s => { d with statement := s }
  | none => d

def hasSaved : Bool := d.saved.isSome

/-- Whether the saved copy equals the statement. -/
def isSaved : Bool := d.saved.any fun s => s.equal d.statement

def compile : Logged (Except Error CompiledStatement × Draft) := do
  match ← d.statement.compileLogged with
  | .ok c => return (.ok c, { d with newest := some c })
  | .error e => return (.error e, d)

def latest : Logged (Option Latest) := do
  match d.newest with
  | none => return none
  | some c =>
    match ← d.statement.compileLogged with
    | .ok now => return some ⟨c, now.equal c⟩
    | .error _ => return some ⟨c, false⟩

/-- The calls that change a draft. -/
inductive Step where
  | bindNamed (name : String) (v : SqlValue)
  | bindNamedAll (bindings : Bindings)
  | bindPositional (v : SqlValue)
  | bindPositionalAll (values : List SqlValue)
  | clearBindings
  | compile
  | save
  | restore

def step (d : Draft) : Step → Draft
  | .bindNamed name v => d.update (·.bindNamed name v)
  | .bindNamedAll bindings => d.update (·.bindNamedAll bindings)
  | .bindPositional v => d.update (·.bindPositional v)
  | .bindPositionalAll values => d.update (·.bindPositionalAll values)
  | .clearBindings => d.update (·.clearBindings)
  | .compile => d.compile.value.2
  | .save => d.save
  | .restore => d.restore

def run (d : Draft) (steps : List Step) : Draft := steps.foldl step d

@[simp] theorem statement_save : d.save.statement = d.statement := rfl

theorem statement_compile : d.compile.value.2.statement = d.statement := by
  unfold compile
  simp only [Logged.value_bind, Statement.compileLogged_value]
  split <;> rfl

theorem saved_compile : d.compile.value.2.saved = d.saved := by
  unfold compile
  simp only [Logged.value_bind, Statement.compileLogged_value]
  split <;> rfl

/-- Whether the statement and its saved copy are both of one template. -/
structure IsOf (d : Draft) (t : Template) : Prop where
  statement : d.statement.template = t
  saved : ∀ s ∈ d.saved, s.template = t

variable {d} {t : Template}

theorem IsOf.step (h : d.IsOf t) (step : Step) : (d.step step).IsOf t := by
  cases step with
  | bindNamed name v => exact ⟨h.statement, h.saved⟩
  | bindNamedAll bindings => exact ⟨h.statement, h.saved⟩
  | bindPositional v => exact ⟨h.statement, h.saved⟩
  | bindPositionalAll values => exact ⟨h.statement, h.saved⟩
  | clearBindings => exact ⟨h.statement, h.saved⟩
  | compile =>
    constructor
    · rw [Draft.step, statement_compile]
      exact h.statement
    · rw [Draft.step, saved_compile]
      exact h.saved
  | save =>
    refine ⟨h.statement, fun s hs => ?_⟩
    cases hs
    exact h.statement
  | restore =>
    cases hsaved : d.saved with
    | none => simpa [Draft.step, restore, hsaved] using h
    | some s =>
      have hrestore : d.step .restore = { d with statement := s } := by
        simp [Draft.step, restore, hsaved]
      rw [hrestore]
      exact ⟨h.saved s hsaved, h.saved⟩

theorem IsOf.run (h : d.IsOf t) (steps : List Step) : (d.run steps).IsOf t := by
  induction steps generalizing d with
  | nil => exact h
  | cons step steps ih => exact ih (h.step step)

theorem template_run (t : Template) (steps : List Step) :
    ((ofStatement (.ofTemplate t)).run steps).statement.template = t := by
  have h : (ofStatement (.ofTemplate t)).IsOf t := ⟨rfl, by simp [ofStatement]⟩
  exact (h.run steps).statement

end Draft
end BoundQuery
