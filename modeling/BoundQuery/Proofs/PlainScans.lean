import BoundQuery.Proofs.Draining
import BoundQuery.Proofs.Routing

/-!
# What a scan has to do with closing

Nothing: each of the scans behind a fetch comes to the same on a cursor that
differs only in how its close goes, reports no close, and fails for a reason of
its own, which is a read that failed or a row that did not convert.
-/

namespace BoundQuery

def closeWarnings (events : List Event) : List Event :=
  events.filter fun e => e.message = "Failed to close row cursor"

@[simp] theorem closeWarnings_nil : closeWarnings [] = [] := rfl

@[simp] theorem closeWarnings_append (events later : List Event) :
    closeWarnings (events ++ later) = closeWarnings events ++ closeWarnings later :=
  List.filter_append _ _

/-- An error of a scan: a read failed, or a row did not convert. -/
def FetchError.isOfScan : FetchError → Prop
  | .scan => True
  | .core (.cannotConvert ..) => True
  | _ => False

namespace ColumnPlan

variable {T : RecordType} (plan : ColumnPlan T)

theorem closeWarnings_decodeFrom (i : Nat) (entries : List (String × SqlValue)) (r : Record T) :
    closeWarnings (plan.decodeFrom i entries r).events = [] := by
  induction entries generalizing i r with
  | nil => rfl
  | cons entry entries ih =>
    obtain ⟨column, v⟩ := entry
    unfold decodeFrom
    split
    · split
      · exact ih (i + 1) _
      · rfl
    · have hreport : closeWarnings (reportUnmatched T.unmatched column v).events = [] := by
        unfold reportUnmatched
        split <;> rfl
      rw [Logged.events_bind, closeWarnings_append, hreport, ih]
      rfl

theorem isOfScan_of_decodeFrom {columns : List String} {i : Nat}
    {entries : List (String × SqlValue)} {r : Record T} {e : Error}
    (h : ((ofColumns T columns).decodeFrom i entries r).value = .error e) :
    FetchError.isOfScan (.core e) := by
  rcases decodeFrom_cases (separates_ofColumns T columns) i entries r with
    ⟨r', hr', _⟩ | ⟨e', he', _, _, _, _, _, _, hdecode, _⟩
  · cases hr'.symm.trans h
  · cases he'.symm.trans h
    rw [ColumnType.eq_cannotConvert_of_decode hdecode]
    trivial

end ColumnPlan

namespace Scanner

/-- A scanner that reports no close and refuses a buffer only because it does not convert. -/
structure Plain {α : Type} (scanner : Scanner α) : Prop where
  quiet : ∀ buffer, closeWarnings (scanner.take buffer).events = []
  isOfScan : ∀ buffer e, (scanner.take buffer).value = .error e → FetchError.isOfScan (.core e)

theorem plain_rows (columns : List String) : (rows columns).Plain :=
  ⟨fun _ => rfl, fun _ _ h => nomatch h⟩

theorem plain_records (T : RecordType) (columns : List String) : (records T columns).Plain :=
  ⟨fun _ => ColumnPlan.closeWarnings_decodeFrom _ _ _ _,
    fun _ _ h => ColumnPlan.isOfScan_of_decodeFrom h⟩

end Scanner

namespace Script

def lenient (s : Script) : Script := { s with failClose := false }

/-- A scan that does not depend on how closing goes, reports no close and fails only by a read or
a row. -/
structure Plain {α : Type} (scan : Script → Metered (ScanEnd α)) : Prop where
  lenient : ∀ s, scan s.lenient = scan s
  quiet : ∀ s, closeWarnings (scan s).events = []
  isOfScan : ∀ s e, (scan s).value = .failed e → e.isOfScan

theorem drainFrom_lenient {α : Type} (s : Script) (scanner : Scanner α)
    (rest : List (List SqlValue)) (done : Nat) (buffer : List SqlValue) :
    s.lenient.drainFrom scanner rest done buffer = s.drainFrom scanner rest done buffer := by
  induction rest generalizing done buffer with
  | nil => rfl
  | cons values rest ih =>
    have hrest : s.lenient.drainFrom scanner rest (done + 1) =
        s.drainFrom scanner rest (done + 1) := funext fun buffer => ih (done + 1) buffer
    unfold drainFrom
    rw [hrest]
    rfl

theorem closeWarnings_drainFrom {α : Type} {scanner : Scanner α} (hscanner : scanner.Plain)
    (s : Script) (rest : List (List SqlValue)) (done : Nat) (buffer : List SqlValue) :
    closeWarnings (s.drainFrom scanner rest done buffer).events = [] := by
  induction rest generalizing done buffer with
  | nil =>
    simp only [drainFrom, Metered.events_bind, events_next, value_next]
    cases s.read done [] <;> rfl
  | cons values rest ih =>
    have hkeep : closeWarnings (scanner.keep (overwrite buffer values)
        (s.drainFrom scanner rest (done + 1))).events = [] := by
      simp only [Scanner.keep, Metered.events_bind, Metered.events_ofLogged, Metered.value_ofLogged,
        closeWarnings_append, hscanner.quiet, List.nil_append]
      cases (scanner.take (overwrite buffer values)).value with
      | error e => rfl
      | ok a => simp [ih]
    simp only [drainFrom, Metered.events_bind, events_next, value_next, List.nil_append]
    cases s.read done (values :: rest) with
    | pending => rfl
    | failed => rfl
    | exhausted => exact hkeep
    | row values' rest' => exact hkeep

theorem isOfScan_of_drain {α : Type} {scanner : Scanner α} (hscanner : scanner.Plain) {s : Script}
    {e : FetchError} (h : (s.drain scanner).value = .failed e) : e.isOfScan := by
  rcases s.drainFrom_cases scanner s.rows 0 s.emptyBuffer with
    ⟨_, refused, _, _, e', _, _, htake, hend, _⟩ | ⟨results, _, hend, _⟩
  · cases hend.symm.trans h
    exact hscanner.isOfScan refused e' htake
  · have hlast := hend.symm.trans h
    cases hread : (s.readOutFrom 0 s.rows).2 <;> rw [hread] at hlast <;> cases hlast
    trivial

theorem plain_drain {α : Type} {scannerOf : List String → Scanner α}
    (hscanner : ∀ columns, (scannerOf columns).Plain) :
    Plain fun s => s.drain (scannerOf s.columns) :=
  ⟨fun s => drainFrom_lenient s (scannerOf s.columns) s.rows 0 s.emptyBuffer,
    fun s => closeWarnings_drainFrom (hscanner s.columns) s s.rows 0 s.emptyBuffer,
    fun s _ h => isOfScan_of_drain (hscanner s.columns) h⟩

theorem plain_first : Plain first := by
  constructor
  · exact fun _ => rfl
  · intro s
    simp only [first, Metered.events_bind, events_next, value_next]
    cases s.read 0 s.rows <;> rfl
  · intro s e h
    simp only [first, Metered.value_bind, value_next] at h
    cases hread : s.read 0 s.rows <;> rw [hread] at h <;> cases h
    trivial

end Script

end BoundQuery
