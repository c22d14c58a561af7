import BoundQuery.Proofs.Routing

/-!
# What a record shows of its row

The plan, the row's columns, its values and the record's fields may all differ
in number. Column `i` reaches field `i` where the plan pairs the two and the row
has a value there. A field that is reached shows that value, every other field
its default, and what reaches no field is the record's rest. The first value
that its field refuses is the error, and then there is no record.
-/

namespace BoundQuery

namespace ColumnPlan

variable {T : RecordType} {plan : ColumnPlan T} {columns : List String} {values : List SqlValue}
  {i : Nat} {column : String} {v : SqlValue} {field : T.Index} {record : Record T} {e : Error}

/-- Whether column `i` of a row has this name and this value and goes to this field. -/
structure Reaches (plan : ColumnPlan T) (columns : List String) (values : List SqlValue) (i : Nat)
    (column : String) (v : SqlValue) (field : T.Index) : Prop where
  column : columns[i]? = some column
  value : values[i]? = some v
  target : plan.target i = some field

/-- What a record shows of a row. -/
structure Shows (plan : ColumnPlan T) (columns : List String) (values : List SqlValue)
    (record : Record T) : Prop where
  reached : ∀ i column v field, plan.Reaches columns values i column v field →
    (T.fieldType field).read? v = some (record.field field)
  unreached : ∀ field, (∀ i column v, ¬ plan.Reaches columns values i column v field) →
    record.field field = (T.fieldType field).default
  rest : record.rest = T.unmatched.ofEntries (plan.untargeted 0 (columns.zip values))

/-- Whether this is the error of the first value of a row that its field refuses. -/
def RefusesFirst (plan : ColumnPlan T) (columns : List String) (values : List SqlValue)
    (e : Error) : Prop :=
  ∃ i column v field, plan.Reaches columns values i column v field ∧
    (T.fieldType field).read? v = none ∧
    e = .cannotConvert column v.kind.name (T.fieldType field).name ∧
    ∀ k < i, ∀ column' v' field', plan.Reaches columns values k column' v' field' →
      ((T.fieldType field').read? v').isSome = true

theorem reaches_iff : plan.Reaches columns values i column v field ↔
    (columns.zip values)[i]? = some (column, v) ∧ plan.target (0 + i) = some field := by
  rw [List.getElem?_zip_eq_some, Nat.zero_add]
  exact ⟨fun h => ⟨⟨h.column, h.value⟩, h.target⟩, fun h => ⟨h.1.1, h.1.2, h.2⟩⟩

theorem Fills.shows (h : plan.Fills 0 (columns.zip values) (.initial T) record) :
    plan.Shows columns values record := by
  constructor
  · intro i column v field hreaches
    obtain ⟨hentry, htarget⟩ := reaches_iff.1 hreaches
    exact ColumnType.decode_eq_ok_iff.1 (h.targeted i column v field hentry htarget)
  · intro field hunreached
    apply h.others field
    intro j hj htarget
    have hentry := List.getElem?_eq_getElem hj
    exact hunreached j _ _ (reaches_iff.2 ⟨hentry, htarget⟩)
  · exact h.rest_eq

theorem Refuses.refusesFirst (h : plan.Refuses 0 (columns.zip values) e) :
    plan.RefusesFirst columns values e := by
  obtain ⟨i, column, v, field, hentry, htarget, he, hearlier⟩ := h
  obtain ⟨hread, hmessage⟩ := ColumnType.decode_eq_error_iff.1 he
  refine ⟨i, column, v, field, reaches_iff.2 ⟨hentry, htarget⟩, hread, hmessage, ?_⟩
  intro k hk column' v' field' hreaches
  obtain ⟨hentry', htarget'⟩ := reaches_iff.1 hreaches
  obtain ⟨x, hx⟩ := hearlier k hk column' v' field' hentry' htarget'
  rw [ColumnType.decode_eq_ok_iff] at hx
  rw [hx, Option.isSome_some]

theorem target_ofColumns_eq_some_iff {planned : List String} :
    (ofColumns T planned).target i = some field ↔ field.val = i ∧ ∃ name, planned[i]? = some name ∧
      ((T.fields.get field).name.toList.map Char.toLower = name.toList.map Char.toLower ∨
        (T.fields.get field).tag = some name) := by
  rw [target_ofColumns, Option.bind_eq_some_iff]
  simp only [route_eq_some_iff, FieldMapping.matches_iff]
  constructor
  · rintro ⟨name, hname, hfield, hmatches⟩
    exact ⟨hfield, name, hname, hmatches⟩
  · rintro ⟨hfield, name, hname, hmatches⟩
    exact ⟨name, hname, hfield, hmatches⟩

/-- Each column with a value goes to the field at its own position, if that field takes its name,
or to the rest. Decoding succeeds just when every value that reaches a field converts, and then
shows all of them; else it answers the first that does not. -/
theorem decode_routes_every_column (T : RecordType) (planned columns : List String)
    (values : List SqlValue) :
    let plan := ofColumns T planned
    (∀ i field, plan.target i = some field ↔ field.val = i ∧ ∃ name, planned[i]? = some name ∧
      ((T.fields.get field).name.toList.map Char.toLower = name.toList.map Char.toLower ∨
        (T.fields.get field).tag = some name)) ∧
    ((∃ record, (plan.decode columns values).value = .ok record) ↔
      ∀ i column v field, plan.Reaches columns values i column v field →
        ((T.fieldType field).read? v).isSome = true) ∧
    match (plan.decode columns values).value with
    | .ok record => plan.Shows columns values record
    | .error e => plan.RefusesFirst columns values e := by
  intro plan
  refine ⟨fun i field => target_ofColumns_eq_some_iff, ?_⟩
  rcases decodeFrom_cases (separates_ofColumns T planned) 0 (columns.zip values) (.initial T) with
    ⟨record, hrecord, hfills⟩ | ⟨e, he, hrefuses⟩
  · have hvalue : (plan.decode columns values).value = .ok record := hrecord
    have hshows := hfills.shows
    rw [hvalue]
    refine ⟨iff_of_true ⟨record, rfl⟩ ?_, hshows⟩
    intro i column v field hreaches
    rw [hshows.reached i column v field hreaches, Option.isSome_some]
  · have hvalue : (plan.decode columns values).value = .error e := he
    rw [hvalue]
    refine ⟨iff_of_false nofun fun hconverts => ?_, hrefuses.refusesFirst⟩
    obtain ⟨i, column, v, field, hreaches, hread, _⟩ := hrefuses.refusesFirst
    have hsome := hconverts i column v field hreaches
    rw [hread] at hsome
    cases hsome

end ColumnPlan
end BoundQuery
