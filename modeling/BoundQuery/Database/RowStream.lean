import BoundQuery.Cursor.Script
import BoundQuery.Database.Driver

/-!
# Streams of rows

An engine hands out the rows of a running text one by one, each as columns that
are still to be decoded. A cursor over such a stream reads row after row into a
buffer with one slot for each of its own columns. It fails where the stream does,
and where a row has too few columns or one that does not decode.
-/

namespace BoundQuery

/-- The rows of a running text, and what the engine keeps after so many of them were asked for. A
row that cannot be stepped to is nothing. -/
structure RowStream (ρ σ : Type) where
  items : List (Option (List ρ))
  after : Nat → σ

/-- What was asked for once, as the items of a stream: the row, nothing without one, or the
failure. -/
def RowStream.once {ρ : Type} : Option (Option (List ρ)) → List (Option (List ρ))
  | none => [none]
  | some none => []
  | some (some row) => [some row]

namespace Cursor

variable {ρ : Type} [ColumnCodec ρ]

/-- Reads the next item of a stream into a buffer, if there is one: whether it was a row. -/
def nextRow (item : Option (Option (List ρ))) (buffer : List SqlValue) :
    Except DbError Bool × List SqlValue :=
  match item with
  | none => (.ok false, buffer)
  | some none => (.error .driver, buffer)
  | some (some row) =>
    let (result, buffer) := decodeRow row buffer
    (result.map fun _ => true, buffer)

/-- The rows that are read up to the end or to the first failure, each into a blank buffer, and
whether a failure came first. -/
def readOut (blank : List SqlValue) : List (Option (List ρ)) → List (List SqlValue) × Bool
  | [] => ([], false)
  | item :: items =>
    match nextRow (some item) blank with
    | (.ok _, values) =>
      let (rows, fails) := readOut blank items
      (values :: rows, fails)
    | (.error _, _) => ([], true)

def blankFor (columns : List String) : List SqlValue := columns.map fun _ => .null

/-- A cursor with these columns over the items of a stream. It neither waits nor fails to close. -/
def script (columns : List String) (items : List (Option (List ρ))) : Script :=
  let read := readOut (blankFor columns) items
  ⟨columns, read.1, if read.2 then some read.1.length else none, none, false⟩

theorem nextRow_row (row : List ρ) (buffer : List SqlValue) :
    nextRow (some (some row)) buffer =
      ((decodeRow row buffer).1.map fun _ => true, (decodeRow row buffer).2) := rfl

theorem nextRow_congr (item : Option (List ρ)) {buffer buffer' : List SqlValue}
    (h : buffer'.length = buffer.length) :
    (nextRow (some item) buffer').1 = (nextRow (some item) buffer).1 ∧
      ((nextRow (some item) buffer).1 = .ok true →
        (nextRow (some item) buffer').2 = (nextRow (some item) buffer).2) := by
  cases item with
  | none => exact ⟨rfl, fun hok => nomatch hok⟩
  | some row =>
    obtain ⟨hresult, hvalues⟩ := decodeRow_congr row h
    simp only [nextRow_row, hresult, true_and]
    intro hok
    apply hvalues
    cases hrow : (decodeRow row buffer).1 with
    | ok u => rfl
    | error e =>
      rw [hrow] at hok
      cases hok

theorem nextRow_cases (item : Option (List ρ)) (buffer : List SqlValue) :
    (nextRow (some item) buffer).1 = .ok true ∧
        (nextRow (some item) buffer).2.length = buffer.length ∨
      (nextRow (some item) buffer).1 = .error .driver := by
  cases item with
  | none => exact .inr rfl
  | some row =>
    rw [nextRow_row]
    cases hrow : (decodeRow row buffer).1 with
    | ok u => exact .inl ⟨rfl, length_decodeRow row buffer⟩
    | error e =>
      obtain rfl := eq_driver_of_decodeRow hrow
      exact .inr rfl

-- The row has one column, the cursor two.
example : nextRow (some (some [Storage.integer 1])) [.null, .null] =
    (.error .driver, [.int64 1, .null]) := rfl

variable {blank : List SqlValue}

theorem readOut_cons_of_row {item : Option (List ρ)} (items : List (Option (List ρ)))
    (h : (nextRow (some item) blank).1 = .ok true) :
    readOut blank (item :: items) =
      ((nextRow (some item) blank).2 :: (readOut blank items).1, (readOut blank items).2) := by
  rw [readOut]
  split
  · next b values hnext => rw [hnext]
  · next e values hnext =>
    rw [hnext] at h
    cases h

theorem readOut_cons_of_failure {item : Option (List ρ)} (items : List (Option (List ρ)))
    (h : (nextRow (some item) blank).1 = .error .driver) :
    readOut blank (item :: items) = ([], true) := by
  rw [readOut]
  split
  · next b values hnext =>
    rw [hnext] at h
    cases h
  · rfl

/-- Each row that is read out is the next one, and behind them the stream ends or fails. -/
theorem nextRow_of_readOut (blank : List SqlValue) (items : List (Option (List ρ))) {done : Nat}
    (hdone : done ≤ (readOut blank items).1.length) :
    match (readOut blank items).1[done]? with
    | some values => nextRow items[done]? blank = (.ok true, values) ∧ values.length = blank.length
    | none =>
      if (readOut blank items).2 then
        ∃ item, items[done]? = some item ∧ (nextRow (some item) blank).1 = .error .driver
      else items[done]? = none := by
  induction items generalizing done with
  | nil => simp [readOut]
  | cons item items ih =>
    obtain ⟨hrow, hlength⟩ | hfails := nextRow_cases item blank
    · rw [readOut_cons_of_row items hrow] at hdone ⊢
      cases done with
      | zero => exact ⟨Prod.ext hrow rfl, hlength⟩
      | succ done => simpa using ih (Nat.le_of_succ_le_succ hdone)
    · rw [readOut_cons_of_failure items hfails] at hdone ⊢
      obtain rfl : done = 0 := Nat.le_zero.1 hdone
      exact ⟨item, rfl, hfails⟩

end Cursor

section Reads

variable {ρ : Type} [ColumnCodec ρ]

/-- Whether a read of a script is what a cursor does with a buffer. -/
def Read.IsOf (buffer : List SqlValue) : Read → Except DbError Bool × List SqlValue → Prop
  | .pending, _ => False
  | .failed, read => read.1 = .error .driver
  | .exhausted, read => read = (.ok false, buffer)
  | .row values _, read => read = (.ok true, overwrite buffer values)

namespace Cursor

variable {columns : List String} {items : List (Option (List ρ))} {done : Nat}

theorem not_pends (columns : List String) (items : List (Option (List ρ))) (done : Nat) :
    (script columns items).pendAt ≠ some done := by simp [script]

theorem read_script_of_row {values : List SqlValue}
    (h : (script columns items).rows[done]? = some values) :
    (script columns items).read done ((script columns items).rows.drop done) =
      .row values ((script columns items).rows.drop (done + 1)) := by
  obtain ⟨hlt, rfl⟩ := List.getElem?_eq_some_iff.1 h
  have hfail : (script columns items).failAt ≠ some done := by
    intro hfail
    simp only [script, Option.ite_none_right_eq_some, Option.some.injEq] at hfail
    exact Nat.ne_of_gt hlt hfail.2
  unfold Script.read
  rw [if_neg (not_pends columns items done), if_neg hfail, List.drop_eq_getElem_cons hlt]

theorem read_script_of_end (h : done = (script columns items).rows.length) :
    (script columns items).read done ((script columns items).rows.drop done) =
      if (readOut (blankFor columns) items).2 then .failed else .exhausted := by
  subst h
  unfold Script.read
  rw [if_neg (not_pends columns items _), List.drop_length]
  by_cases hfails : (readOut (blankFor columns) items).2
  · rw [if_pos (by simp [script, hfails]), if_pos hfails]
  · rw [if_neg (by simp [script, hfails]), if_neg hfails]

/-- The script of a stream reads as a cursor over it, whatever the buffer holds from row to row. -/
theorem read_script_isOf (hdone : done ≤ (script columns items).rows.length)
    {buffer : List SqlValue} (hbuffer : buffer.length = columns.length) :
    ((script columns items).read done ((script columns items).rows.drop done)).IsOf buffer
      (nextRow items[done]? buffer) := by
  have hblank : buffer.length = (blankFor columns).length := by
    rw [hbuffer, blankFor, List.length_map]
  have hnext := nextRow_of_readOut (blankFor columns) items hdone
  split at hnext
  · next values hvalues =>
    obtain ⟨hread, hlength⟩ := hnext
    rw [read_script_of_row hvalues]
    cases hitem : items[done]? with
    | none =>
      rw [hitem] at hread
      cases hread
    | some item =>
      rw [hitem] at hread
      obtain ⟨hok, hsame⟩ := nextRow_congr item hblank
      have hvalues' := hsame (by rw [hread])
      rw [hread] at hok hvalues'
      refine Prod.ext hok ?_
      rw [hvalues', overwrite_eq, hblank, ← hlength, List.take_length,
        List.drop_eq_nil_of_le (by omega), List.append_nil]
  · next hend =>
    have hall : done = (script columns items).rows.length :=
      Nat.le_antisymm hdone (List.getElem?_eq_none_iff.1 hend)
    rw [read_script_of_end hall]
    split at hnext
    · next hfails =>
      obtain ⟨item, hitem, hfailure⟩ := hnext
      rw [if_pos hfails, hitem]
      exact (nextRow_congr item hblank).1.trans hfailure
    · next hreadable =>
      rw [if_neg hreadable, hnext]
      rfl

end Cursor
end Reads
end BoundQuery
