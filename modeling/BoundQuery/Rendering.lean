import BoundQuery.SqlValue.Basic

/-!
# Rendered queries

A rendering puts the literals of the arguments where the question marks for them
stood. Slots are offsets in the unfilled text; while it is filled from left to
right, a slot moves by what was inserted less what was removed before it. A slot
that does not point at a question mark fills nothing, and its argument is used
up all the same. Rendering never fails.
-/

namespace BoundQuery

/-- A text part of whose slots are filled. -/
structure Rendering where
  text : List Char
  inserted : Nat
  removed : Nat
  deriving DecidableEq, Repr

namespace Rendering

def start (sql : String) : Rendering := ⟨sql.toList, 0, 0⟩

/-- Puts a literal in place of the question mark that a slot points at now, if there is one. -/
def fill (r : Rendering) (slot : Nat) (literal : String) : Rendering :=
  if r.removed ≤ slot + r.inserted then
    match Text.splitAt? (slot + r.inserted - r.removed) r.text with
    | some (before, '?' :: after) =>
      { text := before ++ literal.toList ++ after
        inserted := r.inserted + Text.byteLength literal.toList
        removed := r.removed + 1 }
    | _ => r
  else r

/-- Fills the slots in order, each with the next argument, or with nothing when they run out. -/
def fillAll (r : Rendering) : List Nat → List SqlValue → Rendering
  | [], _ => r
  | slot :: slots, args =>
    fillAll (r.fill slot (args.head?.elim "" SqlValue.literal)) slots args.tail

@[simp] theorem fillAll_nil (r : Rendering) (args : List SqlValue) : r.fillAll [] args = r := rfl

theorem fill_of_splitAt? {r : Rendering} {slot : Nat} {literal : String} {before after : List Char}
    (hle : r.removed ≤ slot + r.inserted)
    (h : Text.splitAt? (slot + r.inserted - r.removed) r.text = some (before, '?' :: after)) :
    r.fill slot literal =
      ⟨before ++ literal.toList ++ after, r.inserted + Text.byteLength literal.toList,
        r.removed + 1⟩ := by
  simp [fill, hle, h]

theorem fill_of_no_mark {r : Rendering} {slot : Nat} (literal : String)
    (h : r.removed ≤ slot + r.inserted → ∀ before after,
      Text.splitAt? (slot + r.inserted - r.removed) r.text ≠ some (before, '?' :: after)) :
    r.fill slot literal = r := by
  unfold fill
  split
  · next hle =>
    split
    · next before after hsplit => exact absurd hsplit (h hle before after)
    · rfl
  · rfl

end Rendering

/-- The text with each slot's question mark replaced by the literal of its argument. -/
def render (sql : String) (slots : List Nat) (args : List SqlValue) : String :=
  String.ofList ((Rendering.start sql).fillAll slots args).text

@[simp] theorem render_no_slots (sql : String) (args : List SqlValue) :
    render sql [] args = sql := by
  simp [render, Rendering.start]

/-- The byte offsets of the question marks in text that starts at the byte offset `start`. -/
def nativeSlotsFrom : Nat → List Char → List Nat
  | _, [] => []
  | start, c :: cs =>
    if c = '?' then start :: nativeSlotsFrom (start + c.utf8Size) cs
    else nativeSlotsFrom (start + c.utf8Size) cs

def nativeSlots (sql : String) : List Nat := nativeSlotsFrom 0 sql.toList

theorem le_of_mem_nativeSlotsFrom {start slot : Nat} {cs : List Char}
    (h : slot ∈ nativeSlotsFrom start cs) : start ≤ slot := by
  induction cs generalizing start with
  | nil => cases h
  | cons c cs ih =>
    unfold nativeSlotsFrom at h
    split at h
    · rcases List.mem_cons.1 h with rfl | h
      · exact Nat.le_refl _
      · exact Nat.le_trans (Nat.le_add_right _ _) (ih h)
    · exact Nat.le_trans (Nat.le_add_right _ _) (ih h)

theorem pairwise_nativeSlotsFrom (start : Nat) (cs : List Char) :
    (nativeSlotsFrom start cs).Pairwise (· < ·) := by
  induction cs generalizing start with
  | nil => exact List.Pairwise.nil
  | cons c cs ih =>
    have hpos := c.utf8Size_pos
    unfold nativeSlotsFrom
    split
    · refine List.pairwise_cons.2 ⟨fun slot hslot => ?_, ih _⟩
      have hle := le_of_mem_nativeSlotsFrom hslot
      omega
    · exact ih _

example : render "a ? b ?" [2, 6] [.text "?", .int8 (-1)] = "a '?' b -1" := by decide +kernel

example : render "? é ?" [5, 0] [.int8 1, .int8 2] = "2 é 1" := by decide +kernel

end BoundQuery
