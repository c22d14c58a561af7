import BoundQuery.Text.Blank

/-!
# Parameter grammars

A grammar says how a named parameter is marked in a query: by one marker before
the name, which then runs up to white space, or by the same marker on both
sides of a name without white space. Any character may be the marker. The
grammar knows nothing of SQL, so a marker inside quotes counts like any other.
-/

namespace BoundQuery

inductive Grammar where
  | sigil (marker : Char)
  | delimited (marker : Char)
  deriving DecidableEq, Repr

namespace Grammar

/-- Names between colons. -/
instance : Inhabited Grammar := ⟨.delimited ':'⟩

def marker : Grammar → Char
  | .sigil m => m
  | .delimited m => m

/-- Whether a character may stand in a name. -/
def isNameChar : Grammar → Char → Bool
  | .sigil _, c => !Text.isBlank c
  | .delimited m, c => c != m && !Text.isBlank c

def closing : Grammar → List Char
  | .sigil _ => []
  | .delimited m => [m]

def parameterText (g : Grammar) (name : List Char) : List Char := g.marker :: name ++ g.closing

/-- Whether the text after a name ends the parameter. -/
def closes : Grammar → List Char → Bool
  | .sigil _, _ => true
  | .delimited m, rest => rest.head? == some m

/-- The name of the parameter whose opening marker stands before this text, if one does: a nonempty
run of name characters, under a delimited grammar with its closing marker. -/
def name? (g : Grammar) (cs : List Char) : Option (List Char) :=
  let name := cs.takeWhile g.isNameChar
  if name ≠ [] ∧ g.closes (cs.dropWhile g.isNameChar) then some name else none

/-- What a class takes from the front of a text is all of a first part and nothing of the rest just
if the first part is in the class and the rest does not begin in it. -/
theorem takeWhile_append_eq_left_iff {p : Char → Bool} {cs ds : List Char} :
    (cs ++ ds).takeWhile p = cs ↔ (∀ c ∈ cs, p c = true) ∧ ∀ c ∈ ds.head?, p c = false := by
  induction cs with
  | nil => cases ds <;> simp [List.takeWhile_cons]
  | cons c cs ih => cases hc : p c <;> simp [hc, ih]

theorem exists_closing_append {g : Grammar} {rest : List Char} (h : g.closes rest = true) :
    ∃ after, rest = g.closing ++ after := by
  cases g with
  | sigil m => exact ⟨rest, rfl⟩
  | delimited m =>
    cases rest with
    | nil => simp [closes] at h
    | cons c after =>
      simp only [closes, List.head?_cons, beq_iff_eq, Option.some.injEq] at h
      exact ⟨after, by simp [closing, h]⟩

theorem name?_eq_some_iff {g : Grammar} {cs name : List Char} :
    g.name? cs = some name ↔
      name ≠ [] ∧ cs.takeWhile g.isNameChar = name ∧ g.closes (cs.dropWhile g.isNameChar) = true := by
  unfold name?
  simp only [Option.ite_none_right_eq_some, Option.some.injEq]
  constructor
  · rintro ⟨⟨hne, hcloses⟩, rfl⟩
    exact ⟨hne, rfl, hcloses⟩
  · rintro ⟨hne, rfl, hcloses⟩
    exact ⟨⟨hne, hcloses⟩, rfl⟩

theorem name?_eq_some {g : Grammar} {cs name : List Char} (h : g.name? cs = some name) :
    name ≠ [] ∧ (name.all g.isNameChar = true) ∧ ∃ after, cs = name ++ g.closing ++ after := by
  obtain ⟨hne, rfl, hcloses⟩ := name?_eq_some_iff.1 h
  obtain ⟨after, hafter⟩ := exists_closing_append hcloses
  refine ⟨hne, List.all_takeWhile, after, ?_⟩
  rw [List.append_assoc, ← hafter, List.takeWhile_append_dropWhile]

end Grammar
end BoundQuery
