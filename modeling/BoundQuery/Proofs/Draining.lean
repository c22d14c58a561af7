import BoundQuery.Cursor.Scan
import Mathlib.Data.List.Forall2

/-!
# Reading a cursor to its end

What a full scan comes to is said here of the script and the scanner apart. The
script decides which rows are handed out and how reading ends, the scanner what
becomes of each filled buffer; the first buffer that the scanner refuses ends
the scan before the script does.
-/

namespace BoundQuery

/-- How a scan ends by its last read, with these results of the reads before. -/
def Read.ending {α : Type} (results : α) : Read → ScanEnd α
  | .pending => .pending
  | .failed => .failed .scan
  | _ => .done results

namespace Script

variable (s : Script)

/-- The rows that reading on hands out, after `done` rows with `rest` left, and the read that is
none of them. -/
def readOutFrom : (done : Nat) → (rest : List (List SqlValue)) → List (List SqlValue) × Read
  | done, [] => ([], s.read done [])
  | done, values :: rest =>
    match s.read done (values :: rest) with
    | .row _ _ => (values :: (readOutFrom (done + 1) rest).1, (readOutFrom (done + 1) rest).2)
    | last => ([], last)

theorem read_cons_ne_exhausted (done : Nat) (values : List SqlValue) (rest : List (List SqlValue)) :
    s.read done (values :: rest) ≠ .exhausted := by
  unfold read
  split
  · exact nofun
  · split <;> exact nofun

/-- The rows that a cursor without a waiting read hands out: all rows before the read that fails. -/
def handedOut : List (List SqlValue) :=
  match s.failAt with
  | some k => s.rows.take k
  | none => s.rows

/-- Whether reading every row comes to the read that fails. The read behind the last row counts. -/
def failsToScan : Prop := ∃ k ∈ s.failAt, k ≤ s.rows.length

instance : Decidable s.failsToScan :=
  match hfail : s.failAt with
  | some k => decidable_of_iff (k ≤ s.rows.length) (by simp [failsToScan, hfail])
  | none => isFalse (by simp [failsToScan, hfail])

/-- Whether the read after `k` rows neither waits nor fails. -/
def Undisturbed (s : Script) (k : Nat) : Prop := s.pendAt ≠ some k ∧ s.failAt ≠ some k

variable {s}

theorem undisturbed_of_failAt {f : Nat} (hfail : s.failAt = some f)
    (hpend : ∀ j < f, s.pendAt ≠ some j) : ∀ j < f, s.Undisturbed j := by
  refine fun j hj => ⟨hpend j hj, ?_⟩
  rw [hfail]
  simpa using Nat.ne_of_gt hj

theorem undisturbed_of_not_failsToScan (h : ¬ s.failsToScan)
    (hpend : ∀ j ≤ s.rows.length, s.pendAt ≠ some j) : ∀ j ≤ s.rows.length, s.Undisturbed j :=
  fun j hj => ⟨hpend j hj, fun hfail => h ⟨j, hfail, hj⟩⟩

theorem readOutFrom_of_undisturbed {n done : Nat} {rest : List (List SqlValue)}
    (hundisturbed : ∀ k < n, s.Undisturbed (done + k)) (hn : n ≤ rest.length) :
    s.readOutFrom done rest =
      (rest.take n ++ (s.readOutFrom (done + n) (rest.drop n)).1,
        (s.readOutFrom (done + n) (rest.drop n)).2) := by
  induction n generalizing done rest with
  | zero => simp
  | succ n ih =>
    cases rest with
    | nil => cases hn
    | cons values rest =>
      obtain ⟨hpend, hfail⟩ := hundisturbed 0 (Nat.succ_pos n)
      rw [Nat.add_zero] at hpend hfail
      have hread : s.read done (values :: rest) = .row values rest := by
        simp [read, hpend, hfail]
      have hrest := @ih (done + 1) rest
        (fun k hk => by
          rw [Nat.add_assoc, Nat.add_comm 1 k]
          exact hundisturbed (k + 1) (Nat.succ_lt_succ hk))
        (Nat.le_of_succ_le_succ hn)
      rw [Nat.add_assoc, Nat.add_comm 1 n] at hrest
      simp [readOutFrom, hread, hrest]

/-- Reading every row goes on to the first read that waits, fails or comes after the last row. -/
theorem readOutFrom_rows_of_stop {k : Nat} (hk : k ≤ s.rows.length)
    (hundisturbed : ∀ j < k, s.Undisturbed j)
    (hstop : s.pendAt = some k ∨ s.failAt = some k ∨ k = s.rows.length) :
    s.readOutFrom 0 s.rows = (s.rows.take k, s.read k (s.rows.drop k)) := by
  have hlast : s.readOutFrom k (s.rows.drop k) = ([], s.read k (s.rows.drop k)) := by
    cases hrest : s.rows.drop k with
    | nil => rfl
    | cons values rest =>
      have hlt : k ≠ s.rows.length := by
        rintro rfl
        simp at hrest
      obtain hpend | hfail | heq := hstop
      · simp [readOutFrom, read, hpend]
      · by_cases hpend : s.pendAt = some k <;> simp [readOutFrom, read, hpend, hfail]
      · exact absurd heq hlt
  rw [readOutFrom_of_undisturbed (n := k) (fun j hj => by simpa using hundisturbed j hj) hk,
    Nat.zero_add, hlast, List.append_nil]

theorem fst_readOutFrom_of_ending {α : Type} {done : Nat} {rest : List (List SqlValue)}
    {results a : α} (h : (s.readOutFrom done rest).2.ending results = .done a) :
    (s.readOutFrom done rest).1 = rest := by
  induction rest generalizing done with
  | nil => rfl
  | cons values rest ih =>
    cases hread : s.read done (values :: rest) with
    | pending => simp [readOutFrom, hread, Read.ending] at h
    | failed => simp [readOutFrom, hread, Read.ending] at h
    | exhausted => exact absurd hread (s.read_cons_ne_exhausted done values rest)
    | row values' rest' =>
      simp only [readOutFrom, hread] at h ⊢
      rw [ih h]

/-- Without a waiting read all rows before the failing one are handed out. -/
theorem readOutFrom_rows (hpend : s.pendAt = none) :
    s.readOutFrom 0 s.rows = (s.handedOut, if s.failsToScan then .failed else .exhausted) := by
  have hnever : ∀ j, s.pendAt ≠ some j := by simp [hpend]
  by_cases h : s.failsToScan
  · rw [if_pos h]
    obtain ⟨f, hfail, hf⟩ := h
    rw [Option.mem_def] at hfail
    rw [readOutFrom_rows_of_stop hf (undisturbed_of_failAt hfail fun j _ => hnever j)
      (.inr (.inl hfail))]
    simp [handedOut, read, hpend, hfail]
  · have hundisturbed := undisturbed_of_not_failsToScan h fun j _ => hnever j
    rw [if_neg h, readOutFrom_rows_of_stop (Nat.le_refl _)
      (fun j hj => hundisturbed j (Nat.le_of_lt hj)) (.inr (.inr rfl))]
    cases hfail : s.failAt with
    | none => simp [handedOut, read, hpend, hfail]
    | some f =>
      have hlong : s.rows.length < f := by
        by_contra hle
        exact (hundisturbed f (Nat.le_of_not_lt hle)).2 hfail
      simp [handedOut, read, hpend, hfail, List.take_of_length_le (Nat.le_of_lt hlong),
        Nat.ne_of_gt hlong]

end Script

namespace Scanner

variable {α : Type} (scanner : Scanner α)

/-- The buffers that a scan fills from these rows. -/
def filledFrom : (buffer : List SqlValue) → (rows : List (List SqlValue)) → List (List SqlValue)
  | _, [] => []
  | buffer, values :: rows =>
    overwrite buffer values :: filledFrom (scanner.recycle (overwrite buffer values)) rows

/-- Whether the scanner makes this result of this buffer. -/
def Takes (buffer : List SqlValue) (a : α) : Prop := (scanner.take buffer).value = .ok a

theorem filledFrom_of_full (hrecycle : ∀ buffer, (scanner.recycle buffer).length = buffer.length)
    {buffer : List SqlValue} {rows : List (List SqlValue)}
    (hfull : ∀ values ∈ rows, values.length = buffer.length) :
    scanner.filledFrom buffer rows = rows := by
  induction rows generalizing buffer with
  | nil => rfl
  | cons values rows ih =>
    obtain ⟨hvalues, hrows⟩ := List.forall_mem_cons.1 hfull
    have hoverwrite : overwrite buffer values = values := by
      rw [overwrite_eq, ← hvalues, List.take_length, hvalues, List.drop_length, List.append_nil]
    rw [filledFrom, hoverwrite, ih]
    intro later hlater
    rw [hrecycle, hrows later hlater, hvalues]

theorem eq_map_of_forall₂_takes_rows {columns : List String} {buffers : List (List SqlValue)}
    {results : List Row} (h : List.Forall₂ (rows columns).Takes buffers results) :
    results = buffers.map fun buffer => .ofList (columns.zip buffer) := by
  rw [← List.forall₂_eq_eq_eq, List.forall₂_map_right_iff]
  refine h.flip.imp ?_
  intro row buffer htake
  exact (Except.ok.inj htake).symm

variable {scanner}

theorem keep_of_error {buffer : List SqlValue} {e : Error}
    (h : (scanner.take buffer).value = .error e)
    (later : List SqlValue → Metered (ScanEnd (List α))) :
    (scanner.keep buffer later).value = .failed (.core e) ∧
      (scanner.keep buffer later).calls = [] := by
  simp [keep, h]

theorem keep_of_takes {buffer : List SqlValue} {a : α} (h : scanner.Takes buffer a)
    (later : List SqlValue → Metered (ScanEnd (List α))) :
    (scanner.keep buffer later).value =
        (later (scanner.recycle buffer)).value.map (a :: ·) ∧
      (scanner.keep buffer later).calls = (later (scanner.recycle buffer)).calls := by
  rw [Takes] at h
  simp [keep, h]

end Scanner

namespace Script

variable {α : Type} (s : Script) (scanner : Scanner α)

/-- Some filled buffer is refused, and the scan ends there with its error. -/
def EndsRefused (filled : List (List SqlValue)) (scan : Metered (ScanEnd (List α))) : Prop :=
  ∃ earlier refused later results e, filled = earlier ++ refused :: later ∧
    List.Forall₂ scanner.Takes earlier results ∧ (scanner.take refused).value = .error e ∧
    scan.value = .failed (.core e) ∧ scan.calls = List.replicate (earlier.length + 1) .next

/-- Every filled buffer has a result, and the scan ends by its last read. -/
def EndsRead (filled : List (List SqlValue)) (last : Read) (scan : Metered (ScanEnd (List α))) :
    Prop :=
  ∃ results, List.Forall₂ scanner.Takes filled results ∧ scan.value = last.ending results ∧
    scan.calls = List.replicate (filled.length + 1) .next

theorem drainFrom_cases (rest : List (List SqlValue)) (done : Nat) (buffer : List SqlValue) :
    EndsRefused scanner (scanner.filledFrom buffer (s.readOutFrom done rest).1)
        (s.drainFrom scanner rest done buffer) ∨
      EndsRead scanner (scanner.filledFrom buffer (s.readOutFrom done rest).1)
        (s.readOutFrom done rest).2 (s.drainFrom scanner rest done buffer) := by
  induction rest generalizing done buffer with
  | nil =>
    refine Or.inr ⟨[], .nil, ?_, ?_⟩ <;> cases hread : s.read done [] <;>
      simp [drainFrom, readOutFrom, hread, Read.ending, Scanner.filledFrom]
  | cons values rest ih =>
    cases hread : s.read done (values :: rest) with
    | pending =>
      refine Or.inr ⟨[], ?_, ?_, ?_⟩ <;>
        simp [drainFrom, readOutFrom, hread, Read.ending, Scanner.filledFrom]
    | failed =>
      refine Or.inr ⟨[], ?_, ?_, ?_⟩ <;>
        simp [drainFrom, readOutFrom, hread, Read.ending, Scanner.filledFrom]
    | exhausted => exact absurd hread (s.read_cons_ne_exhausted done values rest)
    | row values' rest' =>
      have hout : s.readOutFrom done (values :: rest) =
          (values :: (s.readOutFrom (done + 1) rest).1, (s.readOutFrom (done + 1) rest).2) := by
        simp [readOutFrom, hread]
      have hvalue : (s.drainFrom scanner (values :: rest) done buffer).value =
          (scanner.keep (overwrite buffer values) (s.drainFrom scanner rest (done + 1))).value := by
        simp [drainFrom, hread]
      have hcalls : (s.drainFrom scanner (values :: rest) done buffer).calls = .next ::
          (scanner.keep (overwrite buffer values) (s.drainFrom scanner rest (done + 1))).calls := by
        simp [drainFrom, hread]
      rw [hout]
      cases htake : (scanner.take (overwrite buffer values)).value with
      | error e =>
        obtain ⟨hkeep, hnone⟩ := Scanner.keep_of_error htake (s.drainFrom scanner rest (done + 1))
        refine Or.inl ⟨[], _, _, [], e, rfl, .nil, htake, hvalue.trans hkeep, ?_⟩
        rw [hcalls, hnone]
        rfl
      | ok a =>
        obtain ⟨hkeep, hlater⟩ := Scanner.keep_of_takes htake (s.drainFrom scanner rest (done + 1))
        rw [hkeep] at hvalue
        rw [hlater] at hcalls
        rcases ih (done + 1) (scanner.recycle (overwrite buffer values)) with hrefused | hread
        · obtain ⟨earlier, refused, later, results, e, hfilled, htakes, he, hend, hreads⟩ := hrefused
          refine Or.inl ⟨overwrite buffer values :: earlier, refused, later, a :: results, e, ?_,
            .cons htake htakes, he, ?_, ?_⟩
          · exact congrArg (overwrite buffer values :: ·) hfilled
          · rw [hvalue, hend]
            rfl
          · rw [hcalls, hreads]
            rfl
        · obtain ⟨results, htakes, hend, hreads⟩ := hread
          refine Or.inr ⟨a :: results, .cons htake htakes, ?_, ?_⟩
          · rw [hvalue, hend]
            cases (s.readOutFrom (done + 1) rest).2 <;> rfl
          · rw [hcalls, hreads]
            rfl

end Script
end BoundQuery
