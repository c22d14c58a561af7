import BoundQuery.Proofs.PlainScans
import BoundQuery.Proofs.Release

/-!
# A failing close is reported once

A close that fails is either the answer of the call that closed the cursor or a
warning, as the guard was released or let go of. What the call would have
answered is read off a second run, on a cursor that differs only in that its
close goes well: only a success gives way to the failing close, and every other
answer stays and the close is logged beside it.
-/

namespace BoundQuery

namespace Script

def letGoEvents (s : Script) : List Event :=
  if s.failClose then [.closeFailed FetchError.close.message] else []

theorem closeWarnings_letGoEvents (s : Script) : closeWarnings s.letGoEvents = s.letGoEvents := by
  unfold letGoEvents
  split <;> rfl

end Script

namespace Guard

theorem events_drop (s : Script) : (drop ⟨some s⟩).events = s.letGoEvents := by
  simp only [drop, Metered.events_bind, Script.events_close, Script.value_close, Script.letGoEvents]
  cases s.failClose <;> rfl

theorem events_release (s : Script) : (release ⟨some s⟩).events = [] := rfl

end Guard

namespace ResultSet

variable {rs : ResultSet} {s : Script} {c : Call}

/-- Whether a fetch was given up, or ended by a read that failed or a row that did not convert. -/
def Ending.isCutShort : Ending → Prop
  | .cancelled => True
  | .failed e => e.isOfScan
  | _ => False

def Answer.ending : Answer → Ending
  | .nothing => .silent
  | .columns _ => .silent
  | .rows fetched => fetched.ending
  | .row fetched => fetched.ending
  | .records _ fetched => fetched.ending
  | .closed (.ok _) => .succeeded
  | .closed (.error e) => .failed e

def Call.isFetch : Call → Prop
  | .fetchAll => True
  | .fetchOne => True
  | .fetchTyped _ => True
  | _ => False

/-- The same set on a cursor with a close that goes well. -/
def lenient (rs : ResultSet) : ResultSet := { rs with cursor := rs.cursor.map Script.lenient }

def answers (rs : ResultSet) : List Call → List Answer
  | [] => []
  | c :: calls => (rs.call c).value.1 :: answers (rs.call c).value.2 calls

/-- How the close by a call comes out: what the call answers, what it would answer if closing went
well, and what it logs of the close. -/
inductive Closing (s : Script) (c : Call) (answer fine : Answer) (warnings : List Event) : Prop
  | released (hcall : c = .close ∨ c.isFetch) (hfine : fine.ending = .succeeded)
      (hanswer : if s.failClose then answer.ending = .failed .close else answer = fine)
      (hquiet : warnings = [])
  | letGo (hcall : c = .drop ∧ fine.ending = .silent ∨ c.isFetch ∧ fine.ending.isCutShort)
      (hanswer : answer = fine) (hwarned : warnings = s.letGoEvents)

theorem phase_lenient (rs : ResultSet) : rs.lenient.phase = rs.phase := by
  simp [phase, isClosed, lenient]

@[simp] theorem columns_lenient (rs : ResultSet) : rs.lenient.columns = rs.columns := rfl

@[simp] theorem isDropped_lenient (rs : ResultSet) : rs.lenient.isDropped = rs.isDropped := rfl

@[simp] theorem calls_lenient (rs : ResultSet) : rs.lenient.calls = rs.calls := rfl

theorem cursor_lenient (h : rs.cursor = some s) : rs.lenient.cursor = some s.lenient := by
  rw [lenient, h]
  rfl

theorem lenient_of_no_cursor (h : rs.cursor = none) : rs.lenient = rs := by
  obtain ⟨columns, cursor, isDropped, calls⟩ := rs
  subst h
  rfl

theorem events_fetch_of_cursor {α : Type} (h : rs.cursor = some s)
    (scan : Script → Metered (ScanEnd α)) :
    (rs.fetch scan).events = (scan s).events ++
      match (scan s).value with
      | .done _ => []
      | _ => s.letGoEvents := by
  simp only [fetch, recording, takeCursor, h, Logged.events_bind, Logged.events_pure,
    Metered.events_bind, List.append_nil]
  cases (scan s).value with
  | done result => simp [Guard.events_release]
  | failed e => simp [Guard.events_drop]
  | pending => simp [Guard.events_drop]

/-- A fetch closes as its scan ends: released by a result and let go of by all else. -/
theorem closing_fetch {α : Type} {scan : Script → Metered (ScanEnd α)} (hscan : Script.Plain scan)
    (h : rs.cursor = some s) (hc : c.isFetch) (answer : Fetched α → Answer)
    (hending : ∀ fetched, (answer fetched).ending = fetched.ending) :
    Closing s c (answer (rs.fetch scan).value.1) (answer (rs.lenient.fetch scan).value.1)
      (closeWarnings (rs.fetch scan).events) := by
  -- Both sets run the same scan, so its end decides both answers.
  have hfine := answer_fetch_of_cursor (cursor_lenient h) scan
  have hanswer := answer_fetch_of_cursor h scan
  have hwarned := congrArg closeWarnings (events_fetch_of_cursor h scan)
  rw [hscan.lenient] at hfine
  rw [closeWarnings_append, hscan.quiet, List.nil_append] at hwarned
  cases hend : (scan s).value with
  | done result =>
    rw [hend] at hfine hanswer hwarned
    refine .released (.inr hc) (by rw [hending, hfine]; rfl) ?_ hwarned
    rw [hanswer, hfine, answerOf, answerOf]
    split
    · exact hending _
    · rfl
  | failed e =>
    rw [hend] at hfine hanswer hwarned
    refine .letGo (.inr ⟨hc, ?_⟩) (by rw [hanswer, hfine]; rfl)
      (hwarned.trans s.closeWarnings_letGoEvents)
    rw [hending, hfine]
    exact hscan.isOfScan s e hend
  | pending =>
    rw [hend] at hfine hanswer hwarned
    refine .letGo (.inr ⟨hc, ?_⟩) (by rw [hanswer, hfine]; rfl)
      (hwarned.trans s.closeWarnings_letGoEvents)
    rw [hending, hfine]
    trivial

theorem answer_close_of_cursor (h : rs.cursor = some s) :
    rs.close.value.1 = if s.failClose then .error .close else .ok () := by
  simp [close, recording, takeCursor, h, Guard.release]

theorem events_close_of_cursor (h : rs.cursor = some s) : rs.close.events = [] := by
  simp [close, recording, takeCursor, h, Guard.events_release]

theorem events_drop_of_cursor (h : rs.cursor = some s) : rs.drop.events = s.letGoEvents := by
  simp [drop, recording, takeCursor, h, Guard.events_drop]

theorem closing_call (h : rs.phase = .opened) (hs : rs.cursor = some s) (hc : c.isUse) :
    Closing s c (rs.call c).value.1 (rs.lenient.call c).value.1
      (closeWarnings (rs.call c).events) := by
  have hopen : rs.phase ≠ .dropped := by simp [h]
  have hopen' : rs.lenient.phase ≠ .dropped := by rwa [phase_lenient]
  have hs' : rs.lenient.cursor = some s.lenient := cursor_lenient hs
  cases c with
  | columns => cases hc
  | fetchAll =>
    have hfetch := closing_fetch (c := .fetchAll) (Script.plain_drain Scanner.plain_rows) hs trivial
      .rows fun _ => rfl
    simpa [call, hopen, hopen', fetchAll] using hfetch
  | fetchOne =>
    have hfetch := closing_fetch (c := .fetchOne) Script.plain_first hs trivial .row fun _ => rfl
    simpa [call, hopen, hopen', fetchOne] using hfetch
  | fetchTyped T =>
    have hfetch := closing_fetch (c := .fetchTyped T)
      (Script.plain_drain (Scanner.plain_records T)) hs trivial (.records T) fun _ => rfl
    simpa [call, hopen, hopen', fetchTyped] using hfetch
  | close =>
    have hanswer : (rs.call .close).value.1 =
        .closed (if s.failClose then .error .close else .ok ()) := by
      simp [call, hopen, answer_close_of_cursor hs]
    have hfine : (rs.lenient.call .close).value.1 = .closed (.ok ()) := by
      simp [call, hopen', answer_close_of_cursor hs', Script.lenient]
    have hquiet : (rs.call .close).events = [] := by
      simp [call, hopen, events_close_of_cursor hs]
    rw [hanswer, hfine, hquiet]
    refine .released (.inl rfl) rfl ?_ rfl
    split <;> rfl
  | drop =>
    have hanswer : (rs.call .drop).value.1 = .nothing := by simp [call, hopen]
    have hfine : (rs.lenient.call .drop).value.1 = .nothing := by simp [call, hopen']
    have hwarned : (rs.call .drop).events = s.letGoEvents := by
      simp [call, hopen, events_drop_of_cursor hs]
    rw [hanswer, hfine, hwarned]
    exact .letGo (.inl ⟨rfl, rfl⟩) rfl s.closeWarnings_letGoEvents

theorem events_fetch_of_no_cursor {α : Type} (h : rs.cursor = none)
    (scan : Script → Metered (ScanEnd α)) : (rs.fetch scan).events = [] := by
  simp [fetch, recording, takeCursor, h]

theorem events_close_of_no_cursor (h : rs.cursor = none) : rs.close.events = [] := by
  simp [close, recording, takeCursor, h]

theorem events_drop_of_no_cursor (h : rs.cursor = none) : rs.drop.events = [] := by
  simp [drop, recording, takeCursor, h]

theorem Call.ending_refusal_ne (c : Call) (columns : List String) :
    (c.refusal columns).ending ≠ .failed .close := by
  cases c <;> simp [refusal, Answer.ending, Fetched.ending]

/-- A call that does not close the cursor reports no close and does not depend on one. -/
structure Idle (rs : ResultSet) (c : Call) : Prop where
  answer : (rs.call c).value.1 = (rs.lenient.call c).value.1
  ending : (rs.call c).value.1.ending ≠ .failed .close
  quiet : (rs.call c).events = []
  calls : (rs.call c).value.2.calls = rs.calls

theorem idle_call (h : rs.phase = .opened → ¬ c.isUse) : Idle rs c := by
  cases hphase : rs.phase with
  | opened =>
    obtain rfl := Call.eq_columns (h hphase)
    have hopen : rs.phase ≠ .dropped := by simp [hphase]
    have hopen' : rs.lenient.phase ≠ .dropped := by rwa [phase_lenient]
    constructor <;> simp [call, hopen, hopen', Answer.ending]
  | closed =>
    obtain ⟨hanswer, _, hcalls⟩ := call_of_closed hphase c
    obtain ⟨_, hs⟩ := phase_eq_closed_iff.1 hphase
    have hopen : rs.phase ≠ .dropped := by simp [hphase]
    constructor
    · rw [lenient_of_no_cursor hs]
    · rw [hanswer]
      exact c.ending_refusal_ne rs.columns
    · cases c <;> simp [call, hopen, fetchAll, fetchOne, fetchTyped, events_fetch_of_no_cursor hs,
        events_close_of_no_cursor hs, events_drop_of_no_cursor hs]
    · exact hcalls
  | dropped =>
    have hphase' : rs.lenient.phase = .dropped := by rwa [phase_lenient]
    constructor
    · rw [call_of_dropped hphase, call_of_dropped hphase']
    · simp [call_of_dropped hphase, Answer.ending]
    · simp [call, hphase]
    · rw [call_of_dropped hphase]

theorem closes_call (h : rs.phase = .opened) (hc : c.isUse) :
    (rs.call c).value.2.closes = rs.closes + 1 := by
  obtain ⟨reads, _, hcalls⟩ := call_of_opened h hc
  simp [closes, hcalls, List.count_replicate]

theorem cursor_call (rs : ResultSet) (c : Call) :
    (rs.call c).value.2.cursor = rs.cursor ∨ (rs.call c).value.2.cursor = none := by
  cases hphase : rs.phase with
  | opened =>
    by_cases hc : c.isUse
    · obtain ⟨_, hcursor, _⟩ := call_of_opened hphase hc
      exact Or.inr hcursor
    · obtain rfl := Call.eq_columns hc
      simp [call, hphase]
  | closed => exact Or.inr (call_of_closed hphase c).2.1
  | dropped => simp [call_of_dropped hphase]

/-- How closing goes makes no difference to the state of the set. -/
theorem call_lenient (rs : ResultSet) (c : Call) :
    (rs.lenient.call c).value.2 = (rs.call c).value.2.lenient := by
  by_cases hdropped : rs.phase = .dropped
  · have hdropped' : rs.lenient.phase = .dropped := by rwa [phase_lenient]
    rw [call_of_dropped hdropped, call_of_dropped hdropped']
  · have hopen' : rs.lenient.phase ≠ .dropped := by rwa [phase_lenient]
    cases hs : rs.cursor with
    | none =>
      have hnone : (rs.call c).value.2.cursor = none := by
        rcases cursor_call rs c with hkept | hgone
        · rw [hkept, hs]
        · exact hgone
      rw [lenient_of_no_cursor hs, lenient_of_no_cursor hnone]
    | some s =>
      have hs' : rs.lenient.cursor = some s.lenient := cursor_lenient hs
      have hrows := (Script.plain_drain Scanner.plain_rows).lenient s
      have hfirst := Script.plain_first.lenient s
      have hrecords := fun T => (Script.plain_drain (Scanner.plain_records T)).lenient s
      cases c <;> simp [call, hdropped, hopen', fetchAll, fetchOne, fetchTyped, fetch_of_cursor hs,
        fetch_of_cursor hs', close_of_cursor hs, close_of_cursor hs', drop_of_cursor hs,
        drop_of_cursor hs', hrows, hfirst, hrecords, lenient_of_no_cursor]

theorem run_lenient (rs : ResultSet) (calls : List Call) :
    (rs.lenient.run calls).value = (rs.run calls).value.lenient := by
  induction calls generalizing rs with
  | nil => rfl
  | cons c calls ih =>
    simp only [run, Logged.value_bind]
    rw [call_lenient, ih]

theorem cursor_run (rs : ResultSet) (calls : List Call) :
    (rs.run calls).value.cursor = rs.cursor ∨ (rs.run calls).value.cursor = none := by
  induction calls generalizing rs with
  | nil => exact Or.inl rfl
  | cons c calls ih =>
    simp only [run, Logged.value_bind]
    rcases ih (rs.call c).value.2 with hkept | hgone
    · rw [hkept]
      exact cursor_call rs c
    · exact Or.inr hgone

theorem cursor_of_opened (hcursor : rs.cursor = some s ∨ rs.cursor = none)
    (h : rs.phase = .opened) : rs.cursor = some s := by
  obtain ⟨_, t, ht⟩ := phase_eq_opened_iff.1 h
  exact hcursor.resolve_right (by simp [ht])

/-- How often a close that failed shows in these answers and events. -/
def closeReports (answers : List Answer) (events : List Event) : Nat :=
  (answers.map Answer.ending).count (.failed .close) + (closeWarnings events).length

theorem closeReports_cons (answer : Answer) (answers : List Answer) (events later : List Event) :
    closeReports (answer :: answers) (events ++ later) =
      closeReports [answer] events + closeReports answers later := by
  simp only [closeReports, List.map_cons, List.map_nil, List.count_cons, List.count_nil,
    closeWarnings_append, List.length_append]
  omega

theorem Idle.closes (h : Idle rs c) : (rs.call c).value.2.closes = rs.closes := by
  rw [ResultSet.closes, h.calls, ResultSet.closes]

theorem Idle.closeReports (h : Idle rs c) :
    closeReports [(rs.call c).value.1] (rs.call c).events = 0 := by
  simp [ResultSet.closeReports, h.quiet, h.ending]

namespace Closing

variable {answer fine : Answer} {warnings : List Event}

/-- Closing under a guard that is let go of does not show in the answer. -/
theorem ending_ne_of_letGo
    (hcall : c = .drop ∧ fine.ending = .silent ∨ c.isFetch ∧ fine.ending.isCutShort) :
    fine.ending ≠ .failed .close := by
  intro hclose
  rw [hclose] at hcall
  rcases hcall with ⟨_, hsilent⟩ | ⟨_, hcut⟩
  · cases hsilent
  · exact hcut

theorem of_close_ok (h : Closing s c answer fine warnings) (hclose : s.failClose = false) :
    answer = fine ∧ answer.ending ≠ .failed .close ∧ warnings = [] := by
  cases h with
  | released hcall hfine hanswer hquiet =>
    rw [if_neg (by simp [hclose])] at hanswer
    rw [hanswer, hfine]
    exact ⟨rfl, by simp, hquiet⟩
  | letGo hcall hanswer hwarned =>
    rw [hanswer, hwarned, Script.letGoEvents, if_neg (by simp [hclose])]
    exact ⟨rfl, ending_ne_of_letGo hcall, rfl⟩

theorem of_close_error (h : Closing s c answer fine warnings) (hclose : s.failClose = true) :
    (answer.ending = .failed .close ↔ c = .close ∨ c.isFetch ∧ fine.ending = .succeeded) ∧
    (warnings ≠ [] ↔ c = .drop ∨ c.isFetch ∧ answer.ending.isCutShort) ∧
    if answer.ending = .failed .close then warnings = []
    else answer = fine ∧ warnings = [.closeFailed FetchError.close.message] := by
  cases h with
  | released hcall hfine hanswer hquiet =>
    rw [if_pos hclose] at hanswer
    have hdrop : c ≠ .drop := by
      rintro rfl
      rcases hcall with hcall | hfetch
      · cases hcall
      · exact hfetch
    refine ⟨iff_of_true hanswer (hcall.imp_right fun hfetch => ⟨hfetch, hfine⟩), ?_, ?_⟩
    · refine iff_of_false (fun hne => hne hquiet) ?_
      rintro (hcall | ⟨_, hcut⟩)
      · exact hdrop hcall
      · rw [hanswer] at hcut
        exact hcut
    · rw [if_pos hanswer]
      exact hquiet
  | letGo hcall hanswer hwarned =>
    subst hanswer
    rw [Script.letGoEvents, if_pos hclose] at hwarned
    have hending : answer.ending ≠ .failed .close := ending_ne_of_letGo hcall
    refine ⟨iff_of_false hending ?_, ?_, ?_⟩
    · rintro (rfl | ⟨hfetch, hsucceeded⟩)
      · rcases hcall with ⟨hcall, _⟩ | ⟨hfetch, _⟩
        · cases hcall
        · exact hfetch
      · rw [hsucceeded] at hcall
        rcases hcall with ⟨_, hsilent⟩ | ⟨_, hcut⟩
        · cases hsilent
        · exact hcut
    · rw [hwarned]
      exact iff_of_true (List.cons_ne_nil _ _) (hcall.imp_left And.left)
    · rw [if_neg hending]
      exact ⟨rfl, hwarned⟩

theorem closeReports {events : List Event}
    (h : Closing s c answer fine (closeWarnings events)) :
    closeReports [answer] events = if s.failClose then 1 else 0 := by
  cases hclose : s.failClose with
  | false =>
    obtain ⟨_, hending, hquiet⟩ := h.of_close_ok hclose
    simp [ResultSet.closeReports, hending, hquiet]
  | true =>
    obtain ⟨_, _, honce⟩ := h.of_close_error hclose
    by_cases hending : answer.ending = .failed .close
    · rw [if_pos hending] at honce
      simp [ResultSet.closeReports, hending, honce]
    · rw [if_neg hending] at honce
      simp [ResultSet.closeReports, hending, honce.2]

end Closing

theorem closeReports_call (hcursor : rs.cursor = some s ∨ rs.cursor = none) (c : Call) :
    closeReports [(rs.call c).value.1] (rs.call c).events + (if s.failClose then rs.closes else 0) =
      if s.failClose then (rs.call c).value.2.closes else 0 := by
  by_cases huse : rs.phase = .opened ∧ c.isUse
  · obtain ⟨hphase, hc⟩ := huse
    have hs : rs.cursor = some s := cursor_of_opened hcursor hphase
    rw [(closing_call hphase hs hc).closeReports, closes_call hphase hc]
    split <;> omega
  · have hidle : Idle rs c := idle_call fun hphase hc => huse ⟨hphase, hc⟩
    rw [hidle.closeReports, hidle.closes, Nat.zero_add]

theorem closeReports_run (hcursor : rs.cursor = some s ∨ rs.cursor = none) (calls : List Call) :
    closeReports (rs.answers calls) (rs.run calls).events +
        (if s.failClose then rs.closes else 0) =
      if s.failClose then (rs.run calls).value.closes else 0 := by
  induction calls generalizing rs with
  | nil => exact Nat.zero_add _
  | cons c calls ih =>
    have hcursor' : (rs.call c).value.2.cursor = some s ∨ (rs.call c).value.2.cursor = none := by
      rcases cursor_call rs c with hkept | hgone
      · rwa [hkept]
      · exact Or.inr hgone
    simp only [answers, run, Logged.value_bind, Logged.events_bind, closeReports_cons]
    rw [Nat.add_right_comm, closeReports_call hcursor c, Nat.add_comm, ih hcursor']

theorem Accounted.closes_le_one (h : rs.Accounted) : rs.closes ≤ 1 := by
  by_cases hphase : rs.phase = .opened
  · simp [closes, h.opened hphase]
  · obtain ⟨reads, hcalls⟩ := h.spent hphase
    simp [closes, hcalls, List.count_replicate]

/-- Over any calls on a result set the close of its cursor, if it fails, shows once, as an answer
or as a warning. It is the answer of the call that closed if that is a close or a fetch that would
have succeeded; it is a warning, and leaves the answer as it is, if that is a drop or a fetch that
was cancelled or met an error of its own. The call that closes is the first use of the set. -/
theorem failing_close_reported_once (s : Script) (calls : List Call) (c : Call) :
    let log := (ofScript s).run calls
    let rs := log.value
    let step := rs.call c
    let answer := step.value.1
    let fine := (((ofScript s.lenient).run calls).value.call c).value.1
    let warnings := closeWarnings step.events
    let closing := step.value.2.closes = rs.closes + 1
    (closeReports ((ofScript s).answers calls) log.events = if s.failClose then rs.closes else 0) ∧
    rs.closes ≤ 1 ∧
    (closing ↔ rs.phase = .opened ∧ c.isUse) ∧
    (¬ (s.failClose ∧ closing) → answer = fine ∧ answer.ending ≠ .failed .close ∧ warnings = []) ∧
    (s.failClose ∧ closing →
      (answer.ending = .failed .close ↔ c = .close ∨ c.isFetch ∧ fine.ending = .succeeded) ∧
      (warnings ≠ [] ↔ c = .drop ∨ c.isFetch ∧ answer.ending.isCutShort) ∧
      if answer.ending = .failed .close then warnings = []
      else answer = fine ∧ warnings = [.closeFailed FetchError.close.message]) := by
  intro log rs step answer fine warnings closing
  have hopened : (ofScript s).cursor = some s ∨ (ofScript s).cursor = none := Or.inl rfl
  have hnone : (ofScript s).closes = 0 := rfl
  have hcursor : rs.cursor = some s ∨ rs.cursor = none := cursor_run (ofScript s) calls
  have hfine : fine = (rs.lenient.call c).value.1 :=
    congrArg (fun lenient : ResultSet => (lenient.call c).value.1) (run_lenient (ofScript s) calls)
  have hreports := closeReports_run hopened calls
  rw [hnone, ite_self, Nat.add_zero] at hreports
  refine ⟨hreports, ((accounted_ofScript s).run calls).closes_le_one, ?_⟩
  by_cases huse : rs.phase = .opened ∧ c.isUse
  · obtain ⟨hphase, hc⟩ := huse
    have hs : rs.cursor = some s := cursor_of_opened hcursor hphase
    have hreport : Closing s c answer fine warnings := hfine ▸ closing_call hphase hs hc
    have hclosing : closing := closes_call hphase hc
    refine ⟨iff_of_true hclosing ⟨hphase, hc⟩, ?_⟩
    cases hclose : s.failClose with
    | false => exact ⟨fun _ => hreport.of_close_ok hclose, fun h => nomatch h.1⟩
    | true => exact ⟨fun h => absurd ⟨rfl, hclosing⟩ h, fun _ => hreport.of_close_error hclose⟩
  · have hidle : Idle rs c := idle_call fun hphase hc => huse ⟨hphase, hc⟩
    have hkept : ¬ closing := fun hclosing =>
      Nat.succ_ne_self rs.closes (hclosing.symm.trans hidle.closes)
    refine ⟨iff_of_false hkept huse, fun _ => ?_, fun h => absurd h.2 hkept⟩
    exact ⟨hidle.answer.trans hfine.symm, hidle.ending, congrArg closeWarnings hidle.quiet⟩

example : ((ofScript ⟨["a"], [], some 0, none, true⟩).run [.fetchAll, .close, .drop]).events =
    [.closeFailed "close failed"] := by decide

end ResultSet
end BoundQuery
