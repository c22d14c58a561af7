import BoundQuery.Error
import BoundQuery.Rendering
import BoundQuery.Template.Names

/-!
# Compilation

Named bindings compile against a template exactly when the bound names are the
names in the query. Then each occurrence takes the value bound last to its name;
otherwise both differences are reported and nothing is produced.
-/

namespace BoundQuery

/-- Values bound to names, in the order of binding. -/
abbrev Bindings := List (String × SqlValue)

namespace Bindings

/-- The value bound last to a name. -/
def value? (bindings : Bindings) (name : String) : Option SqlValue := bindings.reverse.lookup name

def names (bindings : Bindings) : List String := distinctNames (bindings.map Prod.fst)

theorem mem_names {bindings : Bindings} {name : String} :
    name ∈ bindings.names ↔ ∃ v, (name, v) ∈ bindings := by
  simp [names]

end Bindings

/-- Text with question marks, the arguments for them, and where those marks stand. -/
structure PositionalQuery where
  sql : String
  args : List SqlValue
  slots : List Nat
  deriving DecidableEq

namespace PositionalQuery

/-- The query as it is written to logs. -/
def rendered (q : PositionalQuery) : String := render q.sql q.slots q.args

end PositionalQuery

namespace Template

variable (t : Template)

/-- The names in the query that nothing is bound to. -/
def missing (bindings : Bindings) : List String :=
  t.names.filter fun name => !bindings.names.contains name

/-- The bound names that are not in the query. -/
def unexpected (bindings : Bindings) : List String :=
  bindings.names.filter fun name => !t.contains name

def compile (bindings : Bindings) : Except Error PositionalQuery :=
  let missing := t.missing bindings
  let unexpected := t.unexpected bindings
  if missing.isEmpty && unexpected.isEmpty then
    .ok ⟨t.positionalSql, t.parameters.filterMap bindings.value?, t.slots⟩
  else .error (.parameterMismatch missing unexpected)

theorem mem_missing {bindings : Bindings} {name : String} :
    name ∈ t.missing bindings ↔ name ∈ t.parameters ∧ name ∉ bindings.names := by
  simp [missing, t.mem_names]

theorem mem_unexpected {bindings : Bindings} {name : String} :
    name ∈ t.unexpected bindings ↔ name ∈ bindings.names ∧ name ∉ t.parameters := by
  simp [unexpected, ← t.contains_iff]

theorem compile_ok_iff (bindings : Bindings) (q : PositionalQuery) :
    t.compile bindings = .ok q ↔
      t.missing bindings = [] ∧ t.unexpected bindings = [] ∧
        q = ⟨t.positionalSql, t.parameters.filterMap bindings.value?, t.slots⟩ := by
  unfold compile
  by_cases hm : t.missing bindings = [] <;> by_cases hu : t.unexpected bindings = []
  · simp only [hm, hu, List.isEmpty_nil, Bool.and_self, if_true, Except.ok.injEq, true_and]
    exact eq_comm
  all_goals simp [hm, hu]

end Template
end BoundQuery
