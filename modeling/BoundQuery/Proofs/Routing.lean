import BoundQuery.Record.Plan

/-!
# What decoding makes of a row

Decoding follows its plan column by column: a column with a field gives that
field its value or ends the decoding, and a column without one goes to the
record's rest. So a record shows each column once, and an error comes from the
first column that its field refuses.
-/

namespace BoundQuery

namespace Unmatched

/-- What is kept of these unmatched columns. -/
def ofEntries : (u : Unmatched) → List (String × SqlValue) → u.Rest
  | .ignored, _ => ()
  | .collected _, entries => entries
  | .named _, entries => entries.map Prod.fst

theorem foldl_addTo (u : Unmatched) (entries : List (String × SqlValue)) :
    entries.foldl (fun rest e => u.addTo rest e.1 e.2) u.noRest = u.ofEntries entries := by
  cases u with
  | ignored => rfl
  | collected field =>
    have happend : ∀ kept : List (String × SqlValue),
        entries.foldl (fun rest e => (collected field).addTo rest e.1 e.2) kept = kept ++ entries := by
      induction entries with
      | nil => exact fun kept => (List.append_nil kept).symm
      | cons e entries ih => exact fun kept => (ih (kept ++ [e])).trans (List.append_assoc kept [e] _)
    exact happend []
  | named field =>
    have happend : ∀ kept : List String,
        entries.foldl (fun rest e => (named field).addTo rest e.1 e.2) kept =
          kept ++ entries.map Prod.fst := by
      induction entries with
      | nil => exact fun kept => (List.append_nil kept).symm
      | cons e entries ih => exact fun kept => (ih (kept ++ [e.1])).trans (List.append_assoc kept [e.1] _)
    exact happend []

/-- Whether the values of unmatched columns show, and not the names alone. -/
def keepsValues : Unmatched → Prop
  | .collected _ => True
  | _ => False

theorem ofEntries_eq_iff (u : Unmatched) {entries entries' : List (String × SqlValue)}
    (hnames : entries.map Prod.fst = entries'.map Prod.fst) :
    u.ofEntries entries = u.ofEntries entries' ↔ (u.keepsValues → entries = entries') := by
  cases u with
  | ignored => exact iff_of_true rfl False.elim
  | collected field => exact ⟨fun h _ => h, fun h => h trivial⟩
  | named field => exact iff_of_true hnames False.elim

end Unmatched

namespace ColumnPlan

variable {T : RecordType}

/-- The entries without a field, where the first entry stands at position `i`. -/
def untargeted (plan : ColumnPlan T) (i : Nat) (entries : List (String × SqlValue)) :
    List (String × SqlValue) :=
  ((entries.zipIdx i).filter fun e => (plan.target e.2).isNone).map Prod.fst

/-- No field gets two columns. -/
def Separates (plan : ColumnPlan T) : Prop :=
  ∀ i j field, plan.target i = some field → plan.target j = some field → i = j

/-- How a record changes by entries that stand at the positions from `i` on. -/
structure Fills (plan : ColumnPlan T) (i : Nat) (entries : List (String × SqlValue))
    (r r' : Record T) : Prop where
  targeted : ∀ j column v field, entries[j]? = some (column, v) →
    plan.target (i + j) = some field → (T.fieldType field).decode column v = .ok (r'.field field)
  others : ∀ field, (∀ j < entries.length, plan.target (i + j) ≠ some field) →
    r'.field field = r.field field
  rest : r'.rest =
    (plan.untargeted i entries).foldl (fun rest e => T.unmatched.addTo rest e.1 e.2) r.rest

/-- Whether this is the error of the first of the entries that its field refuses. -/
def Refuses (plan : ColumnPlan T) (i : Nat) (entries : List (String × SqlValue)) (e : Error) :
    Prop :=
  ∃ j column v field, entries[j]? = some (column, v) ∧ plan.target (i + j) = some field ∧
    (T.fieldType field).decode column v = .error e ∧
    ∀ k < j, ∀ column' v' field', entries[k]? = some (column', v') →
      plan.target (i + k) = some field' → ∃ x, (T.fieldType field').decode column' v' = .ok x

variable {plan : ColumnPlan T} {i : Nat} {column : String} {v : SqlValue} {field : T.Index}
  {entries : List (String × SqlValue)} {r r' : Record T} {e : Error}

theorem eq_of_route_eq_some {columns : List String} {j : Nat}
    (h : (ofColumns T columns).target j = some field) : j = field := by
  rw [target_ofColumns, Option.bind_eq_some_iff] at h
  obtain ⟨column, _, hroute⟩ := h
  exact (route_eq_some_iff.1 hroute).1.symm

theorem separates_ofColumns (T : RecordType) (columns : List String) :
    (ofColumns T columns).Separates := by
  intro i j field hi hj
  rw [eq_of_route_eq_some hi, eq_of_route_eq_some hj]

theorem target_succ_add (plan : ColumnPlan T) (i j : Nat) :
    plan.target (i + 1 + j) = plan.target (i + (j + 1)) := by
  rw [Nat.add_right_comm, Nat.add_assoc]

theorem Fills.nil : plan.Fills i [] r r := by
  constructor
  · intro j column v field hentry
    simp at hentry
  · intro field _
    rfl
  · rfl

theorem Fills.cons_targeted (hseparates : plan.Separates) (htarget : plan.target i = some field)
    {x : (T.fieldType field).Carrier} (hx : (T.fieldType field).decode column v = .ok x)
    (h : plan.Fills (i + 1) entries (r.set field x) r') :
    plan.Fills i ((column, v) :: entries) r r' := by
  have hkept : r'.field field = x := by
    rw [h.others field, Record.field_set_self]
    intro j _ hlater
    have heq := hseparates _ _ _ htarget hlater
    omega
  constructor
  · intro j column' v' field' hentry htarget'
    cases j with
    | zero =>
      cases hentry
      rw [Nat.add_zero, htarget] at htarget'
      cases htarget'
      rw [hkept, hx]
    | succ j => exact h.targeted j column' v' field' hentry (by rwa [target_succ_add])
  · intro field' hother
    have hne : field' ≠ field := by
      rintro rfl
      exact hother 0 (Nat.succ_pos _) htarget
    rw [h.others field', Record.field_set_of_ne _ hne]
    intro j hj
    rw [target_succ_add]
    exact hother (j + 1) (Nat.succ_lt_succ hj)
  · rw [h.rest]
    simp [untargeted, htarget]

theorem Fills.cons_untargeted (htarget : plan.target i = none)
    (h : plan.Fills (i + 1) entries (r.addUnmatched column v) r') :
    plan.Fills i ((column, v) :: entries) r r' := by
  constructor
  · intro j column' v' field' hentry htarget'
    cases j with
    | zero =>
      rw [Nat.add_zero, htarget] at htarget'
      cases htarget'
    | succ j => exact h.targeted j column' v' field' hentry (by rwa [target_succ_add])
  · intro field' hother
    rw [h.others field', Record.field_addUnmatched]
    intro j hj
    rw [target_succ_add]
    exact hother (j + 1) (Nat.succ_lt_succ hj)
  · rw [h.rest]
    simp [untargeted, htarget, Record.addUnmatched]

theorem Refuses.head (htarget : plan.target i = some field)
    (he : (T.fieldType field).decode column v = .error e) :
    plan.Refuses i ((column, v) :: entries) e :=
  ⟨0, column, v, field, rfl, htarget, he, fun _ hk => absurd hk (Nat.not_lt_zero _)⟩

theorem Refuses.cons (hhead : ∀ field, plan.target i = some field →
      ∃ x, (T.fieldType field).decode column v = .ok x)
    (h : plan.Refuses (i + 1) entries e) : plan.Refuses i ((column, v) :: entries) e := by
  obtain ⟨j, column', v', field', hentry, htarget, he, hearlier⟩ := h
  refine ⟨j + 1, column', v', field', hentry, ?_, he, ?_⟩
  · rwa [← target_succ_add]
  · intro k hk column₁ v₁ field₁ hentry₁ htarget₁
    cases k with
    | zero =>
      cases hentry₁
      exact hhead field₁ htarget₁
    | succ k =>
      exact hearlier k (Nat.lt_of_succ_lt_succ hk) column₁ v₁ field₁ hentry₁
        (by rwa [target_succ_add])

/-- Decoding fills the record by all entries or answers the first refusal. -/
theorem decodeFrom_cases (hseparates : plan.Separates) (i : Nat)
    (entries : List (String × SqlValue)) (r : Record T) :
    (∃ r', (plan.decodeFrom i entries r).value = .ok r' ∧ plan.Fills i entries r r') ∨
      ∃ e, (plan.decodeFrom i entries r).value = .error e ∧ plan.Refuses i entries e := by
  induction entries generalizing i r with
  | nil => exact Or.inl ⟨r, rfl, Fills.nil⟩
  | cons entry entries ih =>
    obtain ⟨column, v⟩ := entry
    cases htarget : plan.target i with
    | some field =>
      cases hx : (T.fieldType field).decode column v with
      | error e =>
        refine Or.inr ⟨e, ?_, Refuses.head htarget hx⟩
        simp [decodeFrom, htarget, hx]
      | ok x =>
        have hvalue : plan.decodeFrom i ((column, v) :: entries) r =
            plan.decodeFrom (i + 1) entries (r.set field x) := by
          simp [decodeFrom, htarget, hx]
        rw [hvalue]
        rcases ih (i + 1) (r.set field x) with ⟨r', hr', hfills⟩ | ⟨e, he, hrefuses⟩
        · exact Or.inl ⟨r', hr', hfills.cons_targeted hseparates htarget hx⟩
        · refine Or.inr ⟨e, he, hrefuses.cons ?_⟩
          intro field' htarget'
          rw [htarget] at htarget'
          cases htarget'
          exact ⟨x, hx⟩
    | none =>
      have hvalue : (plan.decodeFrom i ((column, v) :: entries) r).value =
          (plan.decodeFrom (i + 1) entries (r.addUnmatched column v)).value := by
        simp [decodeFrom, htarget]
      rw [hvalue]
      rcases ih (i + 1) (r.addUnmatched column v) with ⟨r', hr', hfills⟩ | ⟨e, he, hrefuses⟩
      · exact Or.inl ⟨r', hr', hfills.cons_untargeted htarget⟩
      · refine Or.inr ⟨e, he, hrefuses.cons ?_⟩
        intro field' htarget'
        rw [htarget] at htarget'
        cases htarget'

theorem Fills.rest_eq (h : plan.Fills i entries (.initial T) r) :
    r.rest = T.unmatched.ofEntries (plan.untargeted i entries) :=
  h.rest.trans (T.unmatched.foldl_addTo _)

theorem Fills.unique {r₁ r₂ : Record T} (h₁ : plan.Fills i entries r r₁)
    (h₂ : plan.Fills i entries r r₂) : r₁ = r₂ := by
  ext field
  · by_cases hfield : ∃ j < entries.length, plan.target (i + j) = some field
    · obtain ⟨j, hj, htarget⟩ := hfield
      have hentry : entries[j]? = some (entries[j].1, entries[j].2) := List.getElem?_eq_getElem hj
      exact Except.ok.inj
        ((h₁.targeted j _ _ field hentry htarget).symm.trans (h₂.targeted j _ _ field hentry htarget))
    · have hother : ∀ j < entries.length, plan.target (i + j) ≠ some field :=
        fun j hj htarget => hfield ⟨j, hj, htarget⟩
      rw [h₁.others field hother, h₂.others field hother]
  · exact h₁.rest.trans h₂.rest.symm

/-- Decoding comes to a record just when the entries fill it. -/
theorem value_decodeFrom_eq_ok_iff (hseparates : plan.Separates) :
    (plan.decodeFrom i entries r).value = .ok r' ↔ plan.Fills i entries r r' := by
  rcases decodeFrom_cases hseparates i entries r with
    ⟨filled, hvalue, hfills⟩ | ⟨e, hvalue, j, column, v, field, hentry, htarget, he, _⟩
  · rw [hvalue, Except.ok.injEq]
    exact ⟨fun heq => heq ▸ hfills, hfills.unique⟩
  · rw [hvalue]
    refine ⟨nofun, fun hfills => ?_⟩
    cases he.symm.trans (hfills.targeted j column v field hentry htarget)

end ColumnPlan
end BoundQuery
