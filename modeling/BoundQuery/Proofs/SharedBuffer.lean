import BoundQuery.Proofs.Draining
import BoundQuery.Proofs.Release
import BoundQuery.Proofs.Routing

/-!
# Records out of one buffer

A typed fetch reads every row into the same buffer and never empties it. So each
record is decoded from the newest values of its columns, and a row that is
shorter than an earlier one leaves some of that row's values in its record. The
record is then what the row alone would give just where it cannot tell those
values from null.
-/

namespace BoundQuery

theorem getElem?_foldl_overwrite (rows : List (List SqlValue)) (buffer : List SqlValue) (c : Nat) :
    (rows.foldl overwrite buffer)[c]? =
      buffer[c]?.map fun v => (rows.reverse.findSome? (·[c]?)).getD v := by
  induction rows generalizing buffer with
  | nil => simp
  | cons row rows ih =>
    have hnewest : ∀ v, ((row :: rows).reverse.findSome? (·[c]?)).getD v =
        (rows.reverse.findSome? (·[c]?)).getD (row[c]?.getD v) := by
      intro v
      rw [List.reverse_cons, List.findSome?_append]
      cases rows.reverse.findSome? (·[c]?) <;> cases hrow : row[c]? <;> simp [hrow]
    rw [List.foldl_cons, ih, getElem?_overwrite, Option.map_map]
    simp only [hnewest, Function.comp_def]

namespace Scanner

theorem getElem?_filledFrom_records (T : RecordType) (columns : List String)
    (rest : List (List SqlValue)) (buffer : List SqlValue) {k : Nat} (hk : k < rest.length) :
    ((records T columns).filledFrom buffer rest)[k]? =
      some ((rest.take (k + 1)).foldl overwrite buffer) := by
  induction rest generalizing buffer k with
  | nil => cases hk
  | cons values rest ih =>
    cases k with
    | zero => simp [filledFrom]
    | succ k =>
      have hlater := ih (overwrite buffer values) (Nat.lt_of_succ_lt_succ hk)
      simpa [filledFrom, records] using hlater

theorem length_filledFrom {α : Type} (scanner : Scanner α) (buffer : List SqlValue)
    (rest : List (List SqlValue)) : (scanner.filledFrom buffer rest).length = rest.length := by
  induction rest generalizing buffer with
  | nil => rfl
  | cons values rest ih => rw [filledFrom, List.length_cons, ih, List.length_cons]

end Scanner

namespace ColumnPlan

variable {T : RecordType} {plan : ColumnPlan T} {column : String} {v : SqlValue}
  {entries entries' : List (String × SqlValue)} {r : Record T}

/-- Whether a record shows no difference between two values of the column at a position. -/
def Alike (plan : ColumnPlan T) (i : Nat) (v w : SqlValue) : Prop :=
  match plan.target i with
  | some field => (T.fieldType field).read? v = (T.fieldType field).read? w
  | none => T.unmatched.keepsValues → v = w

theorem Alike.refl (plan : ColumnPlan T) (i : Nat) (v : SqlValue) : plan.Alike i v v := by
  unfold Alike
  split
  · rfl
  · exact fun _ => rfl

theorem alike_iff_of_some {i : Nat} {field : T.Index} (h : plan.target i = some field)
    (v w : SqlValue) :
    plan.Alike i v w ↔ (T.fieldType field).read? v = (T.fieldType field).read? w := by
  simp [Alike, h]

theorem alike_iff_of_none {i : Nat} (h : plan.target i = none) (v w : SqlValue) :
    plan.Alike i v w ↔ (T.unmatched.keepsValues → v = w) := by
  simp [Alike, h]

theorem untargeted_cons (plan : ColumnPlan T) (i : Nat) (entry : String × SqlValue)
    (entries : List (String × SqlValue)) :
    plan.untargeted i (entry :: entries) =
      if (plan.target i).isNone then entry :: plan.untargeted (i + 1) entries
      else plan.untargeted (i + 1) entries := by
  unfold untargeted
  rw [List.zipIdx_cons, List.filter_cons]
  split <;> rfl

theorem exists_value_of_names_eq (hnames : entries.map Prod.fst = entries'.map Prod.fst) {j : Nat}
    (hentry : entries'[j]? = some (column, v)) : ∃ w, entries[j]? = some (column, w) := by
  have hname : (entries.map Prod.fst)[j]? = some column := by
    rw [hnames, List.getElem?_map, hentry]
    rfl
  rw [List.getElem?_map, Option.map_eq_some_iff] at hname
  obtain ⟨entry, hentry', rfl⟩ := hname
  exact ⟨entry.2, hentry'⟩

theorem map_fst_untargeted (plan : ColumnPlan T)
    (hnames : entries.map Prod.fst = entries'.map Prod.fst) (i : Nat) :
    (plan.untargeted i entries).map Prod.fst = (plan.untargeted i entries').map Prod.fst := by
  induction entries generalizing i entries' with
  | nil =>
    rw [List.map_eq_nil_iff.1 hnames.symm]
  | cons entry entries ih =>
    cases entries' with
    | nil => cases hnames
    | cons entry' entries' =>
      obtain ⟨hname, hrest⟩ := List.cons.inj hnames
      rw [untargeted_cons, untargeted_cons]
      split
      · rw [List.map_cons, List.map_cons, hname, ih hrest (i + 1)]
      · exact ih hrest (i + 1)

theorem untargeted_eq_iff (hnames : entries.map Prod.fst = entries'.map Prod.fst) (i : Nat) :
    plan.untargeted i entries = plan.untargeted i entries' ↔
      ∀ j column v w, entries[j]? = some (column, v) → entries'[j]? = some (column, w) →
        plan.target (i + j) = none → v = w := by
  induction entries generalizing i entries' with
  | nil =>
    rw [List.map_eq_nil_iff.1 hnames.symm]
    simp
  | cons entry entries ih =>
    cases entries' with
    | nil => cases hnames
    | cons entry' entries' =>
      obtain ⟨name, v₀⟩ := entry
      obtain ⟨name', w₀⟩ := entry'
      obtain ⟨rfl, hrest⟩ := List.cons.inj hnames
      have hlater := ih hrest (i + 1)
      rw [untargeted_cons, untargeted_cons]
      constructor
      · intro h j column v w hv hw htarget
        cases j with
        | zero =>
          cases hv
          cases hw
          rw [Nat.add_zero] at htarget
          rw [htarget] at h
          exact congrArg Prod.snd (List.cons.inj h).1
        | succ j =>
          refine hlater.1 ?_ j column v w hv hw (by rwa [target_succ_add])
          split at h
          · exact (List.cons.inj h).2
          · exact h
      · intro h
        have huntargeted := hlater.2 fun j column v w hv hw htarget =>
          h (j + 1) column v w hv hw (by rwa [target_succ_add] at htarget)
        split
        · next htarget =>
          rw [h 0 name v₀ w₀ rfl rfl (Option.isNone_iff_eq_none.1 htarget), huntargeted]
        · exact huntargeted

/-- What fills a record fills it as well with other values of the same columns, just when it does
not tell them apart. -/
theorem Fills.iff_alike (h : plan.Fills 0 entries (.initial T) r)
    (hnames : entries.map Prod.fst = entries'.map Prod.fst) :
    plan.Fills 0 entries' (.initial T) r ↔
      ∀ j column v w, entries[j]? = some (column, v) → entries'[j]? = some (column, w) →
        plan.Alike j v w := by
  have hrests := T.unmatched.ofEntries_eq_iff (map_fst_untargeted plan hnames 0)
  have htargeted := h.targeted
  rw [untargeted_eq_iff hnames] at hrests
  simp only [Nat.zero_add] at hrests htargeted
  constructor
  · intro h' j column v w hv hw
    cases htarget : plan.target j with
    | some field =>
      have hv' := htargeted j column v field hv htarget
      have hw' := h'.targeted j column w field hw (by rwa [Nat.zero_add])
      rw [ColumnType.decode_eq_ok_iff] at hv' hw'
      rw [alike_iff_of_some htarget, hv', hw']
    | none =>
      have heq := h.rest_eq.symm.trans h'.rest_eq
      rw [alike_iff_of_none htarget]
      exact fun hkeeps => hrests.1 heq hkeeps j column v w hv hw htarget
  · intro halike
    constructor
    · intro j column w field hw htarget
      rw [Nat.zero_add] at htarget
      obtain ⟨v, hv⟩ := exists_value_of_names_eq hnames hw
      have hread := (alike_iff_of_some htarget v w).1 (halike j column v w hv hw)
      have hv' := htargeted j column v field hv htarget
      rw [ColumnType.decode_eq_ok_iff] at hv' ⊢
      rw [← hread, hv']
    · intro field hother
      apply h.others field
      rwa [← List.length_map (f := Prod.fst), hnames, List.length_map]
    · refine h.rest_eq.trans ((hrests.2 ?_).trans (T.unmatched.foldl_addTo _).symm)
      intro hkeeps j column v w hv hw htarget
      exact (alike_iff_of_none htarget v w).1 (halike j column v w hv hw) hkeeps

end ColumnPlan

namespace Script

variable (s : Script)

/-- The value for column `c` in the newest of the rows up to row `k` that has one, else null. -/
def standing (k c : Nat) : SqlValue :=
  ((s.rows.take (k + 1)).reverse.findSome? (·[c]?)).getD .null

def held (k : Nat) : List SqlValue := (List.range s.columns.length).map (s.standing k)

/-- The values of one row alone, cut to the columns or filled up with null. -/
def padded (values : List SqlValue) : List SqlValue :=
  (List.range s.columns.length).map fun c => values[c]?.getD .null

variable {s}

theorem foldl_overwrite_emptyBuffer (s : Script) (k : Nat) :
    (s.rows.take (k + 1)).foldl overwrite s.emptyBuffer = s.held k := by
  apply List.ext_getElem?
  intro c
  rw [getElem?_foldl_overwrite, held, List.getElem?_map]
  by_cases hc : c < s.columns.length
  · simp [emptyBuffer, standing, hc]
  · simp [emptyBuffer, hc]

theorem standing_of_getElem? {k c : Nat} {values : List SqlValue} {v : SqlValue}
    (hrow : s.rows[k]? = some values) (hv : values[c]? = some v) : s.standing k c = v := by
  rw [standing, List.take_add_one, hrow, Option.toList_some, List.reverse_append]
  simp [hv]

theorem map_fst_zip_map_range (s : Script) (f : Nat → SqlValue) :
    (s.columns.zip ((List.range s.columns.length).map f)).map Prod.fst = s.columns :=
  List.map_fst_zip (by simp)

theorem getElem?_zip_map_range {f : Nat → SqlValue} {c : Nat} {column : String} {v : SqlValue}
    (h : (s.columns.zip ((List.range s.columns.length).map f))[c]? = some (column, v)) :
    c < s.columns.length ∧ v = f c := by
  obtain ⟨hcolumn, hv⟩ := List.getElem?_zip_eq_some.1 h
  obtain ⟨hc, _⟩ := List.getElem?_eq_some_iff.1 hcolumn
  simp only [List.getElem?_map, List.getElem?_range hc, Option.map_some, Option.some.injEq] at hv
  exact ⟨hc, hv.symm⟩

/-- A record of what is held is one of the row alone, just where it takes what the row leaves in
the buffer for null. -/
theorem decode_padded_iff {T : RecordType} {record : Record T} {k : Nat} {values : List SqlValue}
    (hrow : s.rows[k]? = some values)
    (h : ((ColumnPlan.ofColumns T s.columns).decode s.columns (s.held k)).value = .ok record) :
    ((ColumnPlan.ofColumns T s.columns).decode s.columns (s.padded values)).value = .ok record ↔
      ∀ c < s.columns.length, values.length ≤ c →
        (ColumnPlan.ofColumns T s.columns).Alike c (s.standing k c) .null := by
  have hseparates := ColumnPlan.separates_ofColumns T s.columns
  rw [ColumnPlan.decode, ColumnPlan.value_decodeFrom_eq_ok_iff hseparates] at h ⊢
  have hnames : (s.columns.zip (s.held k)).map Prod.fst =
      (s.columns.zip (s.padded values)).map Prod.fst := by
    rw [held, padded, map_fst_zip_map_range, map_fst_zip_map_range]
  rw [h.iff_alike hnames]
  constructor
  · intro halike c hc hshort
    have hentry : ∀ f : Nat → SqlValue,
        (s.columns.zip ((List.range s.columns.length).map f))[c]? = some (s.columns[c], f c) := by
      intro f
      rw [List.getElem?_zip_eq_some]
      simp [hc]
    have hleft := halike c _ _ _ (hentry _) (hentry _)
    rwa [List.getElem?_eq_none hshort] at hleft
  · intro halike c column v w hv hw
    obtain ⟨hc, rfl⟩ := getElem?_zip_map_range hv
    obtain ⟨-, rfl⟩ := getElem?_zip_map_range hw
    -- What the row writes is the same on both sides; only the slots behind it can differ.
    cases hvalue : values[c]? with
    | some written =>
      rw [standing_of_getElem? hrow hvalue]
      exact ColumnPlan.Alike.refl _ _ _
    | none => exact halike c hc (List.getElem?_eq_none_iff.1 hvalue)

end Script

namespace ResultSet

variable {s : Script} {T : RecordType}

theorem forall₂_takes_of_fetchTyped {records : List (Record T)}
    (h : ((ofScript s).fetchTyped T).value.1 = .answered (.ok records)) :
    List.Forall₂ (Scanner.records T s.columns).Takes
      ((Scanner.records T s.columns).filledFrom s.emptyBuffer s.rows) records := by
  have hdone : (s.drain (.records T s.columns)).value = .done records := by
    apply done_of_answerOf
    rw [← h]
    exact (answer_fetch_of_cursor rfl fun s => s.drain (.records T s.columns)).symm
  rcases s.drainFrom_cases (.records T s.columns) s.rows 0 s.emptyBuffer with
    ⟨_, _, _, _, _, _, _, _, hend, _⟩ | ⟨results, htakes, hend, _⟩
  · cases hend.symm.trans hdone
  · have hlast := hend.symm.trans hdone
    have hresults : results = records := by
      cases hread : (s.readOutFrom 0 s.rows).2 <;> rw [hread] at hlast <;> cases hlast <;> rfl
    rwa [Script.fst_readOutFrom_of_ending hlast, hresults] at htakes

/-- Record `k` of a typed fetch is decoded from the newest values of its columns up to row `k`.
It is what row `k` alone would give just where it takes what earlier rows left for null. -/
theorem fetchTyped_decodes_newest_values (T : RecordType) (s : Script)
    {records : List (Record T)}
    (h : ((ofScript s).fetchTyped T).value.1 = .answered (.ok records)) :
    let plan := ColumnPlan.ofColumns T s.columns
    records.length = s.rows.length ∧
    ∀ k values record, s.rows[k]? = some values → records[k]? = some record →
      (plan.decode s.columns (s.held k)).value = .ok record ∧
      ((plan.decode s.columns (s.padded values)).value = .ok record ↔
        ∀ c < s.columns.length, values.length ≤ c → plan.Alike c (s.standing k c) .null) := by
  intro plan
  have htakes := forall₂_takes_of_fetchTyped h
  obtain ⟨hlength, htakesAt⟩ := List.forall₂_iff_get.1 htakes
  rw [Scanner.length_filledFrom] at hlength
  refine ⟨hlength.symm, fun k values record hrow hrecord => ?_⟩
  obtain ⟨hk, _⟩ := List.getElem?_eq_some_iff.1 hrow
  obtain ⟨hk', hget⟩ := List.getElem?_eq_some_iff.1 hrecord
  have hheld := Scanner.getElem?_filledFrom_records T s.columns s.rows s.emptyBuffer hk
  rw [Script.foldl_overwrite_emptyBuffer] at hheld
  obtain ⟨hk'', hbuffer⟩ := List.getElem?_eq_some_iff.1 hheld
  have htake := htakesAt k hk'' hk'
  rw [List.get_eq_getElem, List.get_eq_getElem, hget, hbuffer] at htake
  have hdecode : (plan.decode s.columns (s.held k)).value = .ok record := htake
  exact ⟨hdecode, Script.decode_padded_iff hrow hdecode⟩

/-- Three rows, each shorter than the one before. -/
theorem fetchTyped_decodes_newest_values_of_short_rows :
    let T : RecordType := ⟨[⟨⟨"small", none⟩, .nullable .int8⟩], .collected "all"⟩
    let s : Script := ⟨["small", "x"], [[.int8 7, .text "a"], [.int8 1], []], none, none, false⟩
    let plan := ColumnPlan.ofColumns T s.columns
    s.held 2 = [.int8 1, .text "a"] ∧
    ∃ records, ((ofScript s).fetchTyped T).value.1 = .answered (.ok records) ∧
      records.length = s.rows.length ∧
      ∀ k values record, s.rows[k]? = some values → records[k]? = some record →
        (plan.decode s.columns (s.held k)).value = .ok record ∧
        ((plan.decode s.columns (s.padded values)).value = .ok record ↔
          ∀ c < s.columns.length, values.length ≤ c → plan.Alike c (s.standing k c) .null) := by
  intro T s plan
  have hended : ((ofScript s).fetchTyped T).value.1.ending = .succeeded := by decide +kernel
  obtain ⟨records, hrecords⟩ := Fetched.exists_of_ending hended
  exact ⟨rfl, records, hrecords, fetchTyped_decodes_newest_values T s hrecords⟩

/-- A row without a second value has that of the row before in its record. -/
theorem typed_record_shows_earlier_row :
    let T : RecordType := ⟨[], .collected "all"⟩
    let s : Script := ⟨["id", "name"], [[.int64 1, .text "a"], [.int64 2]], none, none, false⟩
    let plan := ColumnPlan.ofColumns T s.columns
    ∃ first second, ((ofScript s).fetchTyped T).value.1 = .answered (.ok [first, second]) ∧
      second.rest = [("id", .int64 2), ("name", .text "a")] ∧
      ∃ alone, (plan.decode s.columns (s.padded [.int64 2])).value = .ok alone ∧
        alone.rest = [("id", .int64 2), ("name", .null)] ∧ alone ≠ second := by
  intro T s plan
  refine ⟨_, _, rfl, rfl, _, rfl, rfl, fun heq => ?_⟩
  have hrest : [("id", SqlValue.int64 2), ("name", .null)] = [("id", .int64 2), ("name", .text "a")] :=
    congrArg Record.rest heq
  simp at hrest

end ResultSet
end BoundQuery
