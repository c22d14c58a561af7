import BoundQuery.Proofs.Compilation
import BoundQuery.Statement.Draft

/-!
# Binding histories

What a statement holds is read off the calls that were made on it. Going back to
a saved copy puts the calls up to the save in place of all later ones, and of the
line of calls that this leaves, those after its last clearing count. How the
statement compiles then depends on what it holds and on nothing else.
-/

namespace BoundQuery

namespace Draft

namespace Step

def named : Step → Bindings
  | .bindNamed name v => [(name, v)]
  | .bindNamedAll bindings => bindings
  | _ => []

def positional : Step → List SqlValue
  | .bindPositional v => [v]
  | .bindPositionalAll values => values
  | _ => []

def isClear : Step → Bool
  | .clearBindings => true
  | _ => false

end Step

mutual

/-- The calls that led to the statement as it is, among all past calls. Both are newest first. Where
nothing was saved, there is nothing to go back to. -/
def line : List Step → List Step
  | [] => []
  | .restore :: past => (savedLine? past).getD (line past)
  | .save :: past => line past
  | step :: past => step :: line past

/-- The calls that led to the newest saved copy. -/
def savedLine? : List Step → Option (List Step)
  | [] => none
  | .save :: past => some (line past)
  | _ :: past => savedLine? past

end

/-- The calls of a line after its last clearing, oldest first. -/
def sinceClear (line : List Step) : List Step := (line.takeWhile fun step => !step.isClear).reverse

/-- The calls whose values are still bound after a sequence of calls. -/
def counted (steps : List Step) : List Step := sinceClear (line steps.reverse)

/-- A statement that holds what a line of calls bound. -/
def boundAlong (t : Template) (line : List Step) : Statement where
  template := t
  named := (sinceClear line).flatMap Step.named
  positional := (sinceClear line).flatMap Step.positional

theorem boundAlong_cons (t : Template) {step : Step} (h : step.isClear = false) (line : List Step) :
    boundAlong t (step :: line) = ⟨t, (boundAlong t line).named ++ step.named,
      (boundAlong t line).positional ++ step.positional⟩ := by
  simp [boundAlong, sinceClear, h]

/-- Whether a draft holds what its past calls bound, and its saved copy what those up to the save
did. -/
structure Tells (d : Draft) (t : Template) (past : List Step) : Prop where
  statement : d.statement = boundAlong t (line past)
  saved : d.saved = (savedLine? past).map (boundAlong t)

variable {d : Draft} {t : Template} {past : List Step}

/-- A call that is no clearing, save or restore prolongs the line and leaves the saved copy. -/
theorem Tells.prolong (h : d.Tells t past) {step : Step} {d' : Draft} (hclear : step.isClear = false)
    (hline : line (step :: past) = step :: line past)
    (hkept : savedLine? (step :: past) = savedLine? past)
    (hstatement : d'.statement = ⟨d.statement.template, d.statement.named ++ step.named,
      d.statement.positional ++ step.positional⟩)
    (hsaved : d'.saved = d.saved) : d'.Tells t (step :: past) := by
  constructor
  · rw [hstatement, hline, boundAlong_cons t hclear, h.statement]
    rfl
  · rw [hsaved, hkept, h.saved]

theorem Tells.step (h : d.Tells t past) (step : Step) : (d.step step).Tells t (step :: past) := by
  cases step with
  | bindNamed name v =>
    refine h.prolong rfl rfl rfl ?_ rfl
    simp [Draft.step, update, Statement.bindNamed, Step.named, Step.positional, toSqlValue]
  | bindNamedAll bindings =>
    refine h.prolong rfl rfl rfl ?_ rfl
    simp [Draft.step, update, Statement.bindNamedAll, Step.named, Step.positional, toSqlValue]
  | bindPositional v =>
    refine h.prolong rfl rfl rfl ?_ rfl
    simp [Draft.step, update, Statement.bindPositional, Step.named, Step.positional, toSqlValue]
  | bindPositionalAll values =>
    refine h.prolong rfl rfl rfl ?_ rfl
    simp [Draft.step, update, Statement.bindPositionalAll, Step.named, Step.positional, toSqlValue]
  | clearBindings => exact ⟨congrArg Statement.clearBindings h.statement, h.saved⟩
  | compile =>
    refine h.prolong rfl rfl rfl ?_ d.saved_compile
    rw [Draft.step, statement_compile]
    simp [Step.named, Step.positional]
  | save => exact ⟨h.statement, congrArg some h.statement⟩
  | restore =>
    have hsaved : d.saved = (savedLine? past).map (boundAlong t) := h.saved
    cases hpast : savedLine? past with
    | none =>
      rw [hpast, Option.map_none] at hsaved
      have hstep : d.step .restore = d := by simp [Draft.step, restore, hsaved]
      have hline : line (.restore :: past) = line past := by simp [line, hpast]
      rw [hstep]
      exact ⟨hline ▸ h.statement, h.saved⟩
    | some saved =>
      rw [hpast, Option.map_some] at hsaved
      have hstep : d.step .restore = { d with statement := boundAlong t saved } := by
        simp [Draft.step, restore, hsaved]
      have hline : line (.restore :: past) = saved := by simp [line, hpast]
      rw [hstep]
      exact ⟨congrArg (boundAlong t) hline.symm, h.saved⟩

/-- Induction on the past calls, the newest of which is the last one made. -/
theorem Tells.run (h : d.Tells t []) (past : List Step) : (d.run past.reverse).Tells t past := by
  induction past with
  | nil => exact h
  | cons step past ih =>
    have hrun : d.run (step :: past).reverse = (d.run past.reverse).step step := by
      simp [Draft.run, List.foldl_append]
    rw [hrun]
    exact ih.step step

theorem statement_run (t : Template) (steps : List Step) :
    ((ofStatement (.ofTemplate t)).run steps).statement = boundAlong t (line steps.reverse) := by
  have hstart : (ofStatement (.ofTemplate t)).Tells t [] := ⟨rfl, rfl⟩
  have htells := hstart.run steps.reverse
  rw [List.reverse_reverse] at htells
  exact htells.statement

/-- After any calls the query is the one that was read at first and the values bound are those of the
calls that still count, by name and by position each in the order of the calls. The state, and how
the statement compiles, are read off these values; compiling leaves all of it as it is. -/
theorem statement_of_history (g : Grammar) (query : String) (steps : List Step) :
    let d := (ofStatement (.ofQuery g query)).run steps
    let s := d.statement
    (s.template = .parse g query ∧ s.query = query ∧ s.grammar = g) ∧
    s.named = (counted steps).flatMap Step.named ∧
    s.positional = (counted steps).flatMap Step.positional ∧
    (s.state = .namedBound ↔ s.named ≠ []) ∧
    (s.state = .positionalBound ↔ s.named = [] ∧ s.positional ≠ []) ∧
    (s.state = .unbound ↔ s.named = [] ∧ s.positional = []) ∧
    (d.step .compile).statement = s ∧
    (s.compile = .error .mixedBindings ↔ s.named ≠ [] ∧ s.positional ≠ []) ∧
    (s.named = [] → s.positional ≠ [] →
      ∃ c, s.compile = .ok c ∧ c.sql = query ∧ c.args = s.positional) ∧
    (s.positional = [] → s.compile.map CompiledStatement.toPositionalQuery =
      (Template.parse g query).compile s.named) := by
  intro d s
  have hs : s = boundAlong (.parse g query) (line steps.reverse) := statement_run _ steps
  have htemplate : s.template = .parse g query := by rw [hs, boundAlong]
  have hquery : s.query = query := by rw [Statement.query, htemplate, Template.query_parse]
  refine ⟨⟨htemplate, hquery, by rw [Statement.grammar, htemplate, Template.grammar_parse]⟩,
    by rw [hs]; rfl, by rw [hs]; rfl, s.state_eq_namedBound_iff, s.state_eq_positionalBound_iff,
    s.state_eq_unbound_iff, d.statement_compile, Statement.compile_eq_mixedBindings_iff, ?_, ?_⟩
  · intro hnamed hpositional
    obtain ⟨c, hc, hsql, hargs⟩ := Statement.compile_of_positional hnamed hpositional
    exact ⟨c, hc, hsql.trans hquery, hargs⟩
  · intro hpositional
    rw [Statement.map_toPositionalQuery_compile,
      Statement.positionalQuery_of_positional_eq_nil hpositional, htemplate]

example (v : SqlValue) :
    counted [.bindNamed "a" v, .save, .clearBindings, .bindNamed "b" v, .restore, .bindNamed "c" v] =
      [.bindNamed "a" v, .bindNamed "c" v] := rfl

end Draft
end BoundQuery
