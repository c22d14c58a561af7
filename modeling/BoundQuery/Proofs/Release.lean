import BoundQuery.Cursor.Session

/-!
# A cursor is closed once

The calls that a cursor gets over any run of its result set are reads and then
one close, made by the first fetch, close or drop and by nothing else. Which way
that call ends does not matter: released or let go of, the guard closes the
cursor, and the result set has no second one to give.
-/

namespace BoundQuery

namespace Guard

theorem calls_drop (s : Script) : (drop ⟨some s⟩).calls = [.close] := by
  simp only [drop, Metered.calls_bind, Script.calls_close, Script.value_close]
  cases s.failClose <;> rfl

theorem calls_release (s : Script) : (release ⟨some s⟩).calls = [.close] := by
  simp [release, drop]

end Guard

namespace Scanner

theorem calls_keep {α : Type} (scanner : Scanner α) (buffer : List SqlValue)
    (later : List SqlValue → Metered (ScanEnd (List α))) :
    (scanner.keep buffer later).calls = [] ∨
      (scanner.keep buffer later).calls = (later (scanner.recycle buffer)).calls := by
  simp only [keep, Metered.calls_bind, Metered.calls_ofLogged, Metered.value_ofLogged]
  cases (scanner.take buffer).value with
  | error e => exact Or.inl rfl
  | ok a => exact Or.inr (by simp)

end Scanner

namespace Script

variable (s : Script)

theorem calls_drainFrom {α : Type} (scanner : Scanner α) (rest : List (List SqlValue))
    (done : Nat) (buffer : List SqlValue) :
    ∃ reads, (s.drainFrom scanner rest done buffer).calls = List.replicate reads .next := by
  induction rest generalizing done buffer with
  | nil =>
    refine ⟨1, ?_⟩
    simp only [drainFrom, Metered.calls_bind, calls_next, value_next]
    cases s.read done [] <;> rfl
  | cons values rest ih =>
    have hkeep : ∃ reads, (scanner.keep (overwrite buffer values)
        (s.drainFrom scanner rest (done + 1))).calls = List.replicate reads .next := by
      obtain ⟨reads, hreads⟩ := ih (done + 1) (scanner.recycle (overwrite buffer values))
      rcases scanner.calls_keep (overwrite buffer values) (s.drainFrom scanner rest (done + 1))
        with hkeep | hkeep
      · exact ⟨0, hkeep⟩
      · exact ⟨reads, hkeep.trans hreads⟩
    obtain ⟨reads, hreads⟩ := hkeep
    simp only [drainFrom, Metered.calls_bind, calls_next, value_next]
    cases s.read done (values :: rest) with
    | pending => exact ⟨1, rfl⟩
    | failed => exact ⟨1, rfl⟩
    | exhausted => exact ⟨reads + 1, by rw [hreads]; rfl⟩
    | row values' rest' => exact ⟨reads + 1, by rw [hreads]; rfl⟩

theorem calls_drain {α : Type} (scanner : Scanner α) :
    ∃ reads, (s.drain scanner).calls = List.replicate reads .next :=
  s.calls_drainFrom scanner s.rows 0 s.emptyBuffer

theorem calls_first : ∃ reads, s.first.calls = List.replicate reads .next := by
  refine ⟨1, ?_⟩
  simp only [first, Metered.calls_bind, calls_next, value_next]
  cases s.read 0 s.rows <;> rfl

end Script

namespace ResultSet

variable {rs : ResultSet} {s : Script}

/-- A fetch of an open set empties it, and its reads are followed by one close. -/
theorem fetch_of_cursor {α : Type} (h : rs.cursor = some s) (scan : Script → Metered (ScanEnd α)) :
    (rs.fetch scan).value.2 =
      { rs with cursor := none, calls := rs.calls ++ ((scan s).calls ++ [.close]) } := by
  simp only [fetch, recording, takeCursor, h, Logged.value_bind, Logged.value_pure,
    Metered.value_bind, Metered.calls_bind]
  cases (scan s).value with
  | done result => simp [Guard.calls_release]
  | failed e => simp [Guard.calls_drop]
  | pending => simp [Guard.calls_drop]

theorem reads_fetch {α : Type} {scan : Script → Metered (ScanEnd α)} {reads : Nat}
    (h : (scan s).calls = List.replicate reads .next) :
    ((ofScript s).fetch scan).value.2.reads = reads := by
  rw [fetch_of_cursor rfl scan, h]
  simp [ResultSet.reads, ofScript]

/-- What a fetch answers by the end of its scan. A close that fails takes the place of a result
only. -/
def answerOf {α : Type} (s : Script) : ScanEnd α → Fetched α
  | .done result => .answered (if s.failClose then .error .close else .ok result)
  | .failed e => .answered (.error e)
  | .pending => .cancelled

theorem done_of_answerOf {α : Type} {scanned : ScanEnd α} {result : α}
    (h : answerOf s scanned = .answered (.ok result)) : scanned = .done result := by
  cases scanned with
  | done other =>
    cases hclose : s.failClose <;> simp [answerOf, hclose] at h
    rw [h]
  | failed e => simp [answerOf] at h
  | pending => simp [answerOf] at h

theorem answer_fetch_of_cursor {α : Type} (h : rs.cursor = some s)
    (scan : Script → Metered (ScanEnd α)) :
    (rs.fetch scan).value.1 = answerOf s (scan s).value := by
  simp only [fetch, recording, takeCursor, h, Logged.value_bind, Logged.value_pure,
    Metered.value_bind]
  cases (scan s).value with
  | done result => cases hclose : s.failClose <;> simp [answerOf, Guard.release, hclose, Except.map]
  | failed e => rfl
  | pending => rfl

/-- How a use of a cursor ends, whatever it answers. -/
inductive Ending where
  | silent
  | succeeded
  | failed (e : FetchError)
  | cancelled
  deriving DecidableEq, Repr

end ResultSet

def Fetched.ending {α : Type} : Fetched α → ResultSet.Ending
  | .answered (.ok _) => .succeeded
  | .answered (.error e) => .failed e
  | .cancelled => .cancelled

theorem Fetched.exists_of_ending {α : Type} {f : Fetched α} (h : f.ending = .succeeded) :
    ∃ result, f = .answered (.ok result) := by
  cases f with
  | answered result =>
    cases result with
    | ok a => exact ⟨a, rfl⟩
    | error e => cases h
  | cancelled => cases h

namespace ResultSet

variable {rs : ResultSet} {s : Script}

theorem fetch_of_no_cursor {α : Type} (h : rs.cursor = none)
    (scan : Script → Metered (ScanEnd α)) :
    (rs.fetch scan).value = (.answered (.error (.core .resultClosed)), rs) := by
  obtain ⟨columns, cursor, isDropped, calls⟩ := rs
  subst h
  simp [fetch, recording, takeCursor]

theorem close_of_cursor (h : rs.cursor = some s) :
    rs.close.value.2 = { rs with cursor := none, calls := rs.calls ++ [.close] } := by
  simp [close, recording, takeCursor, h, Guard.calls_release]

theorem close_of_no_cursor (h : rs.cursor = none) : rs.close.value = (.ok (), rs) := by
  obtain ⟨columns, cursor, isDropped, calls⟩ := rs
  subst h
  simp [close, recording, takeCursor]

theorem drop_of_cursor (h : rs.cursor = some s) :
    rs.drop.value.2 =
      { rs with cursor := none, isDropped := true, calls := rs.calls ++ [.close] } := by
  simp [drop, recording, takeCursor, h, Guard.calls_drop]

theorem drop_of_no_cursor (h : rs.cursor = none) :
    rs.drop.value.2 = { rs with isDropped := true } := by
  obtain ⟨columns, cursor, isDropped, calls⟩ := rs
  subst h
  simp [drop, recording, takeCursor]

theorem phase_eq_opened_iff :
    rs.phase = .opened ↔ rs.isDropped = false ∧ ∃ s, rs.cursor = some s := by
  cases hd : rs.isDropped <;> cases hc : rs.cursor <;> simp [phase, isClosed, hd, hc]

theorem phase_eq_closed_iff : rs.phase = .closed ↔ rs.isDropped = false ∧ rs.cursor = none := by
  cases hd : rs.isDropped <;> cases hc : rs.cursor <;> simp [phase, isClosed, hd, hc]

theorem phase_eq_dropped_iff : rs.phase = .dropped ↔ rs.isDropped = true := by
  cases hd : rs.isDropped <;> cases hc : rs.cursor <;> simp [phase, isClosed, hd, hc]

def Call.refusal (columns : List String) : Call → Answer
  | .columns => .columns columns
  | .fetchAll => .rows (.answered (.error (.core .resultClosed)))
  | .fetchOne => .row (.answered (.error (.core .resultClosed)))
  | .fetchTyped T => .records T (.answered (.error (.core .resultClosed)))
  | .close => .closed (.ok ())
  | .drop => .nothing

/-- A call that uses the cursor: all but asking for the columns. -/
def Call.isUse : Call → Prop
  | .columns => False
  | _ => True

theorem Call.eq_columns {c : Call} (h : ¬ c.isUse) : c = .columns := by
  cases c with
  | columns => rfl
  | _ => exact absurd trivial h

/-- A use of an open set takes its cursor, reads some rows from it and closes it. -/
theorem call_of_opened (h : rs.phase = .opened) {c : Call} (hc : c.isUse) :
    ∃ reads, (rs.call c).value.2.cursor = none ∧
      (rs.call c).value.2.calls = rs.calls ++ (List.replicate reads .next ++ [.close]) := by
  obtain ⟨hd, s, hs⟩ := phase_eq_opened_iff.1 h
  have hne : rs.phase ≠ .dropped := by simp [h]
  cases c with
  | columns => cases hc
  | fetchAll =>
    obtain ⟨reads, hreads⟩ := s.calls_drain (.rows s.columns)
    exact ⟨reads, by simp [call, hne, fetchAll, fetch_of_cursor hs, hreads]⟩
  | fetchOne =>
    obtain ⟨reads, hreads⟩ := s.calls_first
    exact ⟨reads, by simp [call, hne, fetchOne, fetch_of_cursor hs, hreads]⟩
  | fetchTyped T =>
    obtain ⟨reads, hreads⟩ := s.calls_drain (.records T s.columns)
    exact ⟨reads, by simp [call, hne, fetchTyped, fetch_of_cursor hs, hreads]⟩
  | close => exact ⟨0, by simp [call, hne, close_of_cursor hs]⟩
  | drop => exact ⟨0, by simp [call, hne, drop_of_cursor hs]⟩

/-- A call on a closed set is refused or does nothing, and its cursor has no further call. -/
theorem call_of_closed (h : rs.phase = .closed) (c : Call) :
    (rs.call c).value.1 = c.refusal rs.columns ∧ (rs.call c).value.2.cursor = none ∧
      (rs.call c).value.2.calls = rs.calls := by
  obtain ⟨hd, hs⟩ := phase_eq_closed_iff.1 h
  have hne : rs.phase ≠ .dropped := by simp [h]
  cases c with
  | columns => simp [call, hne, Call.refusal, hs]
  | fetchAll => simp [call, hne, Call.refusal, fetchAll, fetch_of_no_cursor hs, hs]
  | fetchOne => simp [call, hne, Call.refusal, fetchOne, fetch_of_no_cursor hs, hs]
  | fetchTyped T => simp [call, hne, Call.refusal, fetchTyped, fetch_of_no_cursor hs, hs]
  | close => simp [call, hne, Call.refusal, close_of_no_cursor hs, hs]
  | drop => simp [call, hne, Call.refusal, drop_of_no_cursor hs, hs]

theorem call_of_dropped (h : rs.phase = .dropped) (c : Call) :
    (rs.call c).value = (.nothing, rs) := by
  simp [call, h]

theorem isDropped_call (rs : ResultSet) (c : Call) :
    (rs.call c).value.2.isDropped = true ↔ rs.isDropped = true ∨ c = .drop := by
  by_cases h : rs.phase = .dropped
  · simp [call_of_dropped h, phase_eq_dropped_iff.1 h]
  · have hd : rs.isDropped = false := by simpa [phase_eq_dropped_iff] using h
    cases hs : rs.cursor with
    | none =>
      cases c <;> simp [call, h, hd, fetchAll, fetchOne, fetchTyped, fetch_of_no_cursor hs,
        close_of_no_cursor hs, drop_of_no_cursor hs]
    | some s =>
      cases c <;> simp [call, h, hd, fetchAll, fetchOne, fetchTyped, fetch_of_cursor hs,
        close_of_cursor hs, drop_of_cursor hs]

theorem phase_call_eq_opened_iff (rs : ResultSet) (c : Call) :
    (rs.call c).value.2.phase = .opened ↔ rs.phase = .opened ∧ ¬ c.isUse := by
  cases hphase : rs.phase with
  | opened =>
    by_cases hc : c.isUse
    · obtain ⟨_, hcursor, _⟩ := call_of_opened hphase hc
      simp [phase_eq_opened_iff, hcursor, hc]
    · obtain rfl := Call.eq_columns hc
      simp [call, hphase, Call.isUse]
  | closed => simp [phase_eq_opened_iff, (call_of_closed hphase c).2.1]
  | dropped => simp [call_of_dropped hphase, hphase]

theorem phase_call_eq_dropped_iff (rs : ResultSet) (c : Call) :
    (rs.call c).value.2.phase = .dropped ↔ rs.phase = .dropped ∨ c = .drop := by
  rw [phase_eq_dropped_iff, phase_eq_dropped_iff, isDropped_call]

/-- No call on the cursor of an open set yet, and reads and one close on that of any other. -/
structure Accounted (rs : ResultSet) : Prop where
  opened : rs.phase = .opened → rs.calls = []
  spent : rs.phase ≠ .opened → ∃ reads, rs.calls = List.replicate reads .next ++ [.close]

theorem Accounted.call (h : rs.Accounted) (c : Call) : (rs.call c).value.2.Accounted := by
  cases hphase : rs.phase with
  | opened =>
    have hnone : rs.calls = [] := h.opened hphase
    by_cases hc : c.isUse
    · obtain ⟨reads, hcursor, hcalls⟩ := call_of_opened hphase hc
      rw [hnone, List.nil_append] at hcalls
      have hnot : (rs.call c).value.2.phase ≠ .opened := by
        rw [Ne, phase_call_eq_opened_iff]
        exact fun hboth => hboth.2 hc
      exact ⟨fun hopened => absurd hopened hnot, fun _ => ⟨reads, hcalls⟩⟩
    · obtain rfl := Call.eq_columns hc
      simpa [ResultSet.call, hphase] using h
  | closed =>
    obtain ⟨_, hcursor, hcalls⟩ := call_of_closed hphase c
    obtain ⟨reads, hreads⟩ := h.spent (by simp [hphase])
    refine ⟨fun hopened => ?_, fun _ => ⟨reads, hcalls.trans hreads⟩⟩
    rw [phase_call_eq_opened_iff, hphase] at hopened
    cases hopened.1
  | dropped => simpa [call_of_dropped hphase] using h

theorem Accounted.run (h : rs.Accounted) (calls : List Call) : (rs.run calls).value.Accounted := by
  induction calls generalizing rs with
  | nil => exact h
  | cons c calls ih => exact ih (h.call c)

theorem phase_run_eq_opened_iff (rs : ResultSet) (calls : List Call) :
    (rs.run calls).value.phase = .opened ↔ rs.phase = .opened ∧ ∀ c ∈ calls, ¬ c.isUse := by
  induction calls generalizing rs with
  | nil => simp [run]
  | cons c calls ih =>
    simp only [run, Logged.value_bind, ih, phase_call_eq_opened_iff, List.forall_mem_cons,
      and_assoc]

theorem phase_run_eq_dropped_iff (rs : ResultSet) (calls : List Call) :
    (rs.run calls).value.phase = .dropped ↔ rs.phase = .dropped ∨ .drop ∈ calls := by
  induction calls generalizing rs with
  | nil => simp [run]
  | cons c calls ih =>
    simp only [run, Logged.value_bind, ih, phase_call_eq_dropped_iff, List.mem_cons, or_assoc,
      eq_comm (a := c)]

theorem accounted_ofScript (s : Script) : (ofScript s).Accounted :=
  ⟨fun _ => rfl, fun h => absurd rfl h⟩

/-- After any calls on a result set, its cursor was closed once if the set was used, and else was
not called at all. A set that was used refuses what comes later and calls nothing. -/
theorem run_closes_once (s : Script) (calls : List Call) :
    let rs := ((ofScript s).run calls).value
    (rs.phase = .opened ↔ ∀ c ∈ calls, ¬ c.isUse) ∧ (rs.phase = .dropped ↔ .drop ∈ calls) ∧
    (rs.phase = .opened → rs.closes = 0 ∧ rs.reads = 0) ∧
    (rs.phase ≠ .opened →
      rs.closes = 1 ∧ rs.calls = List.replicate rs.reads .next ++ [.close]) ∧
    ∀ c, (rs.phase = .closed → (rs.call c).value.1 = c.refusal rs.columns) ∧
      (rs.phase ≠ .opened → (rs.call c).value.2.calls = rs.calls) := by
  intro rs
  have haccounted : rs.Accounted := (accounted_ofScript s).run calls
  refine ⟨?_, ?_, ?_, ?_, fun c => ⟨fun h => (call_of_closed h c).1, fun h => ?_⟩⟩
  · rw [phase_run_eq_opened_iff]
    exact and_iff_right rfl
  · rw [phase_run_eq_dropped_iff]
    exact or_iff_right fun h => nomatch h
  · intro hopened
    simp [closes, reads, haccounted.opened hopened]
  · intro hspent
    obtain ⟨reads, hcalls⟩ := haccounted.spent hspent
    simp [closes, ResultSet.reads, hcalls, List.count_replicate]
  · cases hphase : rs.phase with
    | opened => exact absurd hphase h
    | closed => exact (call_of_closed hphase c).2.2
    | dropped => rw [call_of_dropped hphase]

end ResultSet
end BoundQuery
