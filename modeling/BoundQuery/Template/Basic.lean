import BoundQuery.Template.Grammar
import BoundQuery.Text.Utf8

/-!
# Query templates

A template is a query read under a grammar: its characters with each recognised
parameter as one piece. The scan goes from left to right; a marker that opens no
parameter is an ordinary character, and the scan goes on right behind it. No
character is lost, so the pieces spell the query again.
-/

namespace BoundQuery

/-- A literal character of a query or a parameter in it. -/
inductive Piece where
  | literal (c : Char)
  | parameter (name : String)
  deriving DecidableEq, Repr

namespace Piece

def name? : Piece → Option String
  | .literal _ => none
  | .parameter name => some name

@[simp] theorem filterMap_name?_literal (c : Char) (pieces : List Piece) :
    (literal c :: pieces).filterMap name? = pieces.filterMap name? := rfl

@[simp] theorem filterMap_name?_parameter (name : String) (pieces : List Piece) :
    (parameter name :: pieces).filterMap name? = name :: pieces.filterMap name? := rfl

/-- The characters of the query that this piece stands for. -/
def text (g : Grammar) : Piece → List Char
  | .literal c => [c]
  | .parameter name => g.parameterText name.toList

def positional : Piece → List Char
  | .literal c => [c]
  | .parameter _ => ['?']

end Piece

namespace Grammar

/-- The pieces of a text of which the first `skip` characters already belong to a parameter. -/
def scanFrom (g : Grammar) : Nat → List Char → List Piece
  | _, [] => []
  | skip + 1, _ :: cs => scanFrom g skip cs
  | 0, c :: cs =>
    if c = g.marker then
      match g.name? cs with
      | some name =>
        .parameter (String.ofList name) :: scanFrom g (name.length + g.closing.length) cs
      | none => .literal c :: scanFrom g 0 cs
    else .literal c :: scanFrom g 0 cs

def scan (g : Grammar) (cs : List Char) : List Piece := g.scanFrom 0 cs

variable (g : Grammar)

@[simp] theorem scan_nil : g.scan [] = [] := rfl

theorem scanFrom_eq_scan_drop (skip : Nat) (cs : List Char) :
    g.scanFrom skip cs = g.scan (cs.drop skip) := by
  induction cs generalizing skip with
  | nil => cases skip <;> rfl
  | cons c cs ih =>
    cases skip with
    | zero => rfl
    | succ skip => simpa [scanFrom] using ih skip

theorem scan_cons_of_ne {c : Char} (h : c ≠ g.marker) (cs : List Char) :
    g.scan (c :: cs) = .literal c :: g.scan cs := by
  simp [scan, scanFrom, h]

theorem scan_marker_of_none {cs : List Char} (h : g.name? cs = none) :
    g.scan (g.marker :: cs) = .literal g.marker :: g.scan cs := by
  simp [scan, scanFrom, h]

theorem scan_marker_of_some {cs name : List Char} (h : g.name? cs = some name) :
    g.scan (g.marker :: cs) =
      .parameter (String.ofList name) :: g.scan (cs.drop (name.length + g.closing.length)) := by
  rw [← scanFrom_eq_scan_drop]
  simp [scan, scanFrom, h]

theorem scan_parameterText {name after : List Char}
    (h : g.name? (name ++ g.closing ++ after) = some name) :
    g.scan (g.parameterText name ++ after) = .parameter (String.ofList name) :: g.scan after := by
  have hdrop : (name ++ g.closing ++ after).drop (name.length + g.closing.length) = after := by
    rw [← List.length_append, List.drop_left]
  have hscan := g.scan_marker_of_some h
  rw [hdrop] at hscan
  simpa [parameterText] using hscan

/-- The scan goes on behind an ordinary character or behind a parameter, so what holds of the rest
and carries over both holds of the whole. -/
theorem scan_induction {motive : List Char → List Piece → Prop} (nil : motive [] [])
    (literal : ∀ c cs, (c = g.marker → g.name? cs = none) → motive cs (g.scan cs) →
      motive (c :: cs) (.literal c :: g.scan cs))
    (parameter : ∀ name after, g.name? (name ++ g.closing ++ after) = some name →
      motive after (g.scan after) →
      motive (g.parameterText name ++ after) (.parameter (String.ofList name) :: g.scan after))
    (cs : List Char) : motive cs (g.scan cs) := by
  induction h : cs.length using Nat.strongRecOn generalizing cs with
  | ind n ih =>
    cases cs with
    | nil => exact nil
    | cons c cs =>
      simp only [List.length_cons] at h
      have hrest : motive cs (g.scan cs) := ih cs.length (by omega) cs rfl
      by_cases hc : c = g.marker
      · subst hc
        cases hname : g.name? cs with
        | none =>
          rw [g.scan_marker_of_none hname]
          exact literal _ _ (fun _ => hname) hrest
        | some name =>
          obtain ⟨_, _, after, rfl⟩ := Grammar.name?_eq_some hname
          have hlen : after.length < n := by simp at h; omega
          have hparameter := parameter name after hname (ih _ hlen after rfl)
          rw [← g.scan_parameterText hname] at hparameter
          simpa [parameterText] using hparameter
      · rw [g.scan_cons_of_ne hc]
        exact literal _ _ (fun h => absurd h hc) hrest

theorem flatMap_text_scan (cs : List Char) : (g.scan cs).flatMap (Piece.text g) = cs := by
  refine g.scan_induction (motive := fun cs pieces => pieces.flatMap (Piece.text g) = cs) rfl ?_ ?_ cs
  · intro c cs _ ih
    rw [List.flatMap_cons, ih]
    rfl
  · intro name after _ ih
    rw [List.flatMap_cons, ih]
    simp [Piece.text]

end Grammar

/-- A query read under a grammar. -/
structure Template where
  grammar : Grammar
  pieces : List Piece
  deriving DecidableEq, Repr

/-- An occurrence of a named parameter, its markers inside the span. -/
structure Placeholder where
  name : String
  span : Text.Span
  deriving DecidableEq, Repr

namespace Template

def parse (g : Grammar) (query : String) : Template := ⟨g, g.scan query.toList⟩

variable (t : Template)

def query : String := String.ofList (t.pieces.flatMap (Piece.text t.grammar))

@[simp] theorem grammar_parse (g : Grammar) (query : String) : (parse g query).grammar = g := rfl

@[simp] theorem query_parse (g : Grammar) (query : String) : (parse g query).query = query := by
  simp [Template.query, parse, g.flatMap_text_scan]

/-- The parameter names in text order, one for each occurrence. -/
def parameters : List String := t.pieces.filterMap Piece.name?

def total : Nat := t.parameters.length

/-- The occurrences among pieces of which the first starts at the byte offset `start`. -/
def placeholdersFrom (g : Grammar) : Nat → List Piece → List Placeholder
  | _, [] => []
  | start, .literal c :: pieces => placeholdersFrom g (start + c.utf8Size) pieces
  | start, .parameter name :: pieces =>
    let stop := start + Text.byteLength (g.parameterText name.toList)
    ⟨name, start, stop⟩ :: placeholdersFrom g stop pieces

def placeholders : List Placeholder := placeholdersFrom t.grammar 0 t.pieces

/-- The query with a question mark in place of every parameter. -/
def positionalText : List Char := t.pieces.flatMap Piece.positional

def positionalSql : String := String.ofList t.positionalText

/-- The byte offsets of the question marks for parameters, among pieces of which the first is
written at the byte offset `start`. -/
def slotsFrom : Nat → List Piece → List Nat
  | _, [] => []
  | start, .literal c :: pieces => slotsFrom (start + c.utf8Size) pieces
  | start, .parameter _ :: pieces => start :: slotsFrom (start + 1) pieces

/-- The byte offsets in `positionalSql` at which the parameters stood. -/
def slots : List Nat := slotsFrom 0 t.pieces

/-- Rewrites a text span by span, from the byte offset `last` on: keeps what is before each span,
puts a question mark for the span and notes where. Nothing where a span cannot be cut out. -/
def rewriteFrom? (cs : List Char) : (last : Nat) → (sql : List Char) → (slots : List Nat) →
    List Placeholder → Option (List Char × List Nat)
  | last, sql, slots, [] => do
    let rest ← Text.Span.slice? ⟨last, Text.byteLength cs⟩ cs
    return (sql ++ rest, slots)
  | last, sql, slots, p :: ps => do
    let kept ← Text.Span.slice? ⟨last, p.span.start⟩ cs
    rewriteFrom? cs p.span.stop (sql ++ kept ++ ['?'])
      (slots ++ [Text.byteLength (sql ++ kept)]) ps

/-- A query rewritten by the spans of its placeholders, with the offsets of the question marks. -/
def rewrite? (query : String) (ps : List Placeholder) : Option (String × List Nat) :=
  (rewriteFrom? query.toList 0 [] [] ps).map fun (sql, slots) => (String.ofList sql, slots)

theorem map_name_placeholdersFrom (g : Grammar) (start : Nat) (pieces : List Piece) :
    (placeholdersFrom g start pieces).map Placeholder.name = pieces.filterMap Piece.name? := by
  induction pieces generalizing start with
  | nil => rfl
  | cons piece pieces ih =>
    cases piece with
    | literal c => simpa [placeholdersFrom] using ih _
    | parameter name => simp [placeholdersFrom, ih]

theorem map_name_placeholders : t.placeholders.map Placeholder.name = t.parameters :=
  map_name_placeholdersFrom _ _ _

theorem length_slotsFrom (start : Nat) (pieces : List Piece) :
    (slotsFrom start pieces).length = (pieces.filterMap Piece.name?).length := by
  induction pieces generalizing start with
  | nil => rfl
  | cons piece pieces ih =>
    cases piece with
    | literal c => simpa [slotsFrom] using ih _
    | parameter name => simp [slotsFrom, ih]

theorem length_slots : t.slots.length = t.total := length_slotsFrom _ _

theorem le_of_mem_slotsFrom {start slot : Nat} {pieces : List Piece}
    (h : slot ∈ slotsFrom start pieces) : start ≤ slot := by
  induction pieces generalizing start with
  | nil => cases h
  | cons piece pieces ih =>
    cases piece with
    | literal c => exact Nat.le_trans (Nat.le_add_right _ _) (ih h)
    | parameter name =>
      rcases List.mem_cons.1 h with rfl | h
      · exact Nat.le_refl _
      · exact Nat.le_trans (Nat.le_add_right _ _) (ih h)

theorem pairwise_slotsFrom (start : Nat) (pieces : List Piece) :
    (slotsFrom start pieces).Pairwise (· < ·) := by
  induction pieces generalizing start with
  | nil => exact List.Pairwise.nil
  | cons piece pieces ih =>
    cases piece with
    | literal c => exact ih _
    | parameter name =>
      exact List.pairwise_cons.2 ⟨fun slot hslot => le_of_mem_slotsFrom hslot, ih _⟩

theorem le_of_mem_placeholdersFrom {g : Grammar} {start : Nat} {pieces : List Piece}
    {p : Placeholder} (h : p ∈ placeholdersFrom g start pieces) : start ≤ p.span.start := by
  induction pieces generalizing start with
  | nil => cases h
  | cons piece pieces ih =>
    cases piece with
    | literal c => exact Nat.le_trans (Nat.le_add_right _ _) (ih h)
    | parameter name =>
      rcases List.mem_cons.1 h with rfl | h
      · exact Nat.le_refl _
      · exact Nat.le_trans (Nat.le_add_right _ _) (ih h)

end Template
end BoundQuery
