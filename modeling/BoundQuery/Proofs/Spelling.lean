import BoundQuery.Template.Basic
import BoundQuery.Text.Splice
import Mathlib.Algebra.GroupWithZero.Nat
import Mathlib.Data.List.Forall2

/-!
# Spellings of a template

The same pieces can be written with their parameters as the query has them, with
question marks, or under other names. All spellings have their literal
characters in common, so each is turned into any other by replacing the spans
of its parameters.
-/

namespace BoundQuery

open Text (byteLength outside? replaceSpans? weave Span)

namespace Piece

/-- The characters of this piece where parameters are written as `f` says. -/
def spelled (f : String → List Char) : Piece → List Char
  | .literal c => [c]
  | .parameter name => f name

end Piece

namespace Template

/-- Some pieces with their parameters written as `f` says. -/
def spelling (f : String → List Char) (pieces : List Piece) : List Char :=
  pieces.flatMap (Piece.spelled f)

/-- Where the parameters stand in a spelling that starts at the byte offset `start`. -/
def spansFrom (f : String → List Char) : Nat → List Piece → List Span
  | _, [] => []
  | start, .literal c :: pieces => spansFrom f (start + c.utf8Size) pieces
  | start, .parameter name :: pieces =>
    ⟨start, start + byteLength (f name)⟩ :: spansFrom f (start + byteLength (f name)) pieces

/-- The literal characters before, between and after the parameters. -/
def literalRuns : List Piece → List (List Char)
  | [] => [[]]
  | .literal c :: pieces => (literalRuns pieces).modifyHead (c :: ·)
  | .parameter _ :: pieces => [] :: literalRuns pieces

variable (f f' : String → List Char)

@[simp] theorem spelling_nil : spelling f [] = [] := rfl

@[simp] theorem spelling_literal (c : Char) (pieces : List Piece) :
    spelling f (.literal c :: pieces) = c :: spelling f pieces := rfl

@[simp] theorem spelling_parameter (name : String) (pieces : List Piece) :
    spelling f (.parameter name :: pieces) = f name ++ spelling f pieces := rfl

theorem flatMap_text (g : Grammar) (pieces : List Piece) :
    pieces.flatMap (Piece.text g) = spelling (fun name => g.parameterText name.toList) pieces :=
  rfl

theorem flatMap_positional_eq_spelling (pieces : List Piece) :
    pieces.flatMap Piece.positional = spelling (fun _ => ['?']) pieces :=
  rfl

theorem map_span_placeholdersFrom (g : Grammar) (start : Nat) (pieces : List Piece) :
    (placeholdersFrom g start pieces).map Placeholder.span =
      spansFrom (fun name => g.parameterText name.toList) start pieces := by
  induction pieces generalizing start with
  | nil => rfl
  | cons piece pieces ih =>
    cases piece with
    | literal c => exact ih _
    | parameter name => simp [placeholdersFrom, spansFrom, ih]

theorem map_mark_slotsFrom (start : Nat) (pieces : List Piece) :
    (slotsFrom start pieces).map (fun slot => Span.mk slot (slot + 1)) =
      spansFrom (fun _ => ['?']) start pieces := by
  have hone : byteLength ['?'] = 1 := rfl
  induction pieces generalizing start with
  | nil => rfl
  | cons piece pieces ih =>
    cases piece with
    | literal c => exact ih _
    | parameter name => simp [slotsFrom, spansFrom, ih, hone]

theorem le_of_mem_spansFrom {start : Nat} {pieces : List Piece} {span : Span}
    (h : span ∈ spansFrom f start pieces) : start ≤ span.start := by
  induction pieces generalizing start with
  | nil => cases h
  | cons piece pieces ih =>
    cases piece with
    | literal c => exact Nat.le_trans (Nat.le_add_right _ _) (ih h)
    | parameter name =>
      rcases List.mem_cons.1 h with rfl | h
      · exact Nat.le_refl _
      · exact Nat.le_trans (Nat.le_add_right _ _) (ih h)

theorem outside?_spelling (start : Nat) (pieces : List Piece) :
    outside? start (spelling f pieces) (spansFrom f start pieces) = some (literalRuns pieces) := by
  induction pieces generalizing start with
  | nil => rfl
  | cons piece pieces ih =>
    cases piece with
    | literal c =>
      rw [spelling_literal, spansFrom, Text.outside?_cons fun span => le_of_mem_spansFrom f, ih]
      rfl
    | parameter name =>
      rw [spelling_parameter, spansFrom, Text.outside?_append, ih]
      rfl

theorem literalRuns_ne_nil (pieces : List Piece) : literalRuns pieces ≠ [] :=
  Text.outside?_ne_nil (outside?_spelling (fun _ => []) 0 pieces)

theorem weave_literalRuns (pieces : List Piece) :
    weave (literalRuns pieces) ((pieces.filterMap Piece.name?).map f) = spelling f pieces := by
  induction pieces with
  | nil => rfl
  | cons piece pieces ih =>
    cases piece with
    | literal c =>
      rw [Piece.filterMap_name?_literal, literalRuns,
        Text.weave_modifyHead (literalRuns_ne_nil pieces), ih, spelling_literal]
    | parameter name => simp [literalRuns, weave, ih]

theorem length_spansFrom (start : Nat) (pieces : List Piece) :
    (spansFrom f start pieces).length = (pieces.filterMap Piece.name?).length := by
  induction pieces generalizing start with
  | nil => rfl
  | cons piece pieces ih =>
    cases piece with
    | literal c => simpa [spansFrom] using ih _
    | parameter name => simp [spansFrom, ih]

theorem replaceSpans?_spelling (start : Nat) (pieces : List Piece) :
    replaceSpans? start (spelling f pieces)
        ((spansFrom f start pieces).zip ((pieces.filterMap Piece.name?).map f')) =
      some (spelling f' pieces) := by
  have hlength : (spansFrom f start pieces).length = ((pieces.filterMap Piece.name?).map f').length := by
    rw [length_spansFrom, List.length_map]
  rw [Text.replaceSpans?_eq_weave, List.map_fst_zip (Nat.le_of_eq hlength),
    List.map_snd_zip (Nat.le_of_eq hlength.symm), outside?_spelling,
    Option.map_some, weave_literalRuns]

theorem forall₂_spansFrom (start : Nat) (pieces : List Piece) :
    List.Forall₂ (fun span name => ∃ before after, spelling f pieces = before ++ f name ++ after ∧
      span = ⟨start + byteLength before, start + byteLength (before ++ f name)⟩)
        (spansFrom f start pieces) (pieces.filterMap Piece.name?) := by
  induction pieces generalizing start with
  | nil => exact .nil
  | cons piece pieces ih =>
    cases piece with
    | literal c =>
      refine (ih (start + c.utf8Size)).imp ?_
      rintro span name ⟨before, after, htext, rfl⟩
      exact ⟨c :: before, after, by simp [htext], by simp [Nat.add_assoc]⟩
    | parameter name =>
      refine .cons ⟨[], spelling f pieces, rfl, by simp⟩ ((ih _).imp ?_)
      rintro span later ⟨before, after, htext, rfl⟩
      exact ⟨f name ++ before, after, by simp [htext], by simp [Nat.add_assoc]⟩

theorem exists_of_mem_spansFrom {start : Nat} {pieces : List Piece} {span : Span}
    (h : span ∈ spansFrom f start pieces) :
    ∃ name before after, spelling f pieces = before ++ f name ++ after ∧
      span = ⟨start + byteLength before, start + byteLength (before ++ f name)⟩ := by
  have hforall := forall₂_spansFrom f start pieces
  obtain ⟨i, hi, rfl⟩ := List.getElem_of_mem h
  exact ⟨_, hforall.get hi (hforall.length_eq ▸ hi)⟩

theorem byteLength_spelling_add (start start' : Nat) (pieces : List Piece) :
    byteLength (spelling f' pieces) + ((spansFrom f start pieces).map Span.length).sum =
      byteLength (spelling f pieces) + ((spansFrom f' start' pieces).map Span.length).sum := by
  induction pieces generalizing start start' with
  | nil => rfl
  | cons piece pieces ih =>
    cases piece with
    | literal c =>
      have hrest := ih (start + c.utf8Size) (start' + c.utf8Size)
      simp only [spelling_literal, Text.byteLength_cons, spansFrom]
      omega
    | parameter name =>
      have hrest := ih (start + byteLength (f name)) (start' + byteLength (f' name))
      simp only [spelling_parameter, Text.byteLength_append, spansFrom, List.map_cons,
        List.sum_cons, Span.length]
      omega

end Template
end BoundQuery
