import BoundQuery.Text.Ranges

/-!
# White space

Parameter names end at white space and numerals are trimmed of it. The class is
the Unicode property White_Space, so a no-break space is blank while a
zero-width space is not.
-/

namespace BoundQuery
namespace Text

/-- The property White_Space, as its code point ranges. -/
def blankRanges : List (Nat × Nat) :=
  [(0x09, 0x0D), (0x20, 0x20), (0x85, 0x85), (0xA0, 0xA0), (0x1680, 0x1680),
   (0x2000, 0x200A), (0x2028, 0x2029), (0x202F, 0x202F), (0x205F, 0x205F), (0x3000, 0x3000)]

def isBlank (c : Char) : Bool := inRanges blankRanges c

theorem isBlank_iff (c : Char) :
    isBlank c = true ↔ ∃ range ∈ blankRanges, range.1 ≤ c.toNat ∧ c.toNat ≤ range.2 := by
  exact inRanges_iff blankRanges c

example : areSeparate blankRanges = true ∧ countPoints blankRanges = 25 := by decide +kernel

def trimStart (cs : List Char) : List Char := cs.dropWhile isBlank

def trimEnd (cs : List Char) : List Char := (cs.reverse.dropWhile isBlank).reverse

def trim (cs : List Char) : List Char := trimEnd (trimStart cs)

@[simp] theorem trim_nil : trim [] = [] := rfl

theorem isBlank_of_isDigit {c : Char} (h : c.isDigit = true) : isBlank c = false := by
  have hdigit : 48 ≤ c.toNat ∧ c.toNat ≤ 57 := Char.isDigit_iff_toNat.1 h
  have hclear : ∀ range ∈ blankRanges, range.2 < 48 ∨ 57 < range.1 := by decide
  rw [Bool.eq_false_iff, ne_eq, isBlank_iff]
  rintro ⟨range, hrange, hlow, hhigh⟩
  have hside := hclear range hrange
  omega

theorem trimStart_append {before cs : List Char} (hbefore : ∀ c ∈ before, isBlank c = true)
    (hfirst : ∀ c ∈ cs.head?, isBlank c = false) : trimStart (before ++ cs) = cs := by
  rw [trimStart, List.dropWhile_append_of_pos hbefore]
  cases cs with
  | nil => rfl
  | cons c cs => rw [List.dropWhile_cons, hfirst c rfl]; rfl

theorem trimEnd_append {cs after : List Char} (hafter : ∀ c ∈ after, isBlank c = true)
    (hlast : ∀ c ∈ cs.getLast?, isBlank c = false) : trimEnd (cs ++ after) = cs := by
  have hstart : trimStart (after.reverse ++ cs.reverse) = cs.reverse := by
    apply trimStart_append
    · exact fun c hc => hafter c (List.mem_reverse.1 hc)
    · rwa [List.head?_reverse]
  rw [trimEnd, List.reverse_append, ← trimStart, hstart, List.reverse_reverse]

/-- White space around a text goes, if the text is not empty and has none at its own ends. -/
theorem trim_append {before cs after : List Char} (hbefore : ∀ c ∈ before, isBlank c = true)
    (hafter : ∀ c ∈ after, isBlank c = true) (hcs : cs ≠ [])
    (hfirst : ∀ c ∈ cs.head?, isBlank c = false) (hlast : ∀ c ∈ cs.getLast?, isBlank c = false) :
    trim (before ++ cs ++ after) = cs := by
  have hhead : ∀ c ∈ (cs ++ after).head?, isBlank c = false := by
    obtain ⟨c, later, rfl⟩ := List.exists_cons_of_ne_nil hcs
    exact hfirst
  rw [trim, List.append_assoc, trimStart_append hbefore hhead, trimEnd_append hafter hlast]

/-- What is left of a text without the white space at its ends. -/
structure Trimmed (cs core : List Char) : Prop where
  exists_eq_append : ∃ before after : List Char, cs = before ++ core ++ after ∧
    (∀ c ∈ before, isBlank c = true) ∧ ∀ c ∈ after, isBlank c = true
  head_not_blank : ∀ c ∈ core.head?, isBlank c = false
  last_not_blank : ∀ c ∈ core.getLast?, isBlank c = false

theorem trim_eq_nil {cs : List Char} (h : ∀ c ∈ cs, isBlank c = true) : trim cs = [] := by
  have hstart : trimStart (cs ++ []) = [] := trimStart_append h fun _ hc => nomatch hc
  rw [List.append_nil] at hstart
  rw [trim, hstart]
  rfl

theorem exists_trimStart (cs : List Char) :
    ∃ before, cs = before ++ trimStart cs ∧ ∀ c ∈ before, isBlank c = true :=
  ⟨cs.takeWhile isBlank, List.takeWhile_append_dropWhile.symm, List.all_eq_true.1 List.all_takeWhile⟩

theorem exists_trimEnd (cs : List Char) :
    ∃ after, cs = trimEnd cs ++ after ∧ ∀ c ∈ after, isBlank c = true := by
  obtain ⟨after, hreverse, hafter⟩ := exists_trimStart cs.reverse
  refine ⟨after.reverse, ?_, fun c hc => hafter c (List.mem_reverse.1 hc)⟩
  have heq := congrArg List.reverse hreverse
  rwa [List.reverse_reverse, List.reverse_append] at heq

theorem isBlank_head_trimStart {cs : List Char} {c : Char} (h : c ∈ (trimStart cs).head?) :
    isBlank c = false := by
  have hfirst := List.head?_dropWhile_not isBlank cs
  rw [trimStart, Option.mem_def] at h
  rwa [h] at hfirst

theorem isBlank_last_trimEnd {cs : List Char} {c : Char} (h : c ∈ (trimEnd cs).getLast?) :
    isBlank c = false := by
  rw [trimEnd, List.getLast?_reverse] at h
  exact isBlank_head_trimStart h

theorem trimmed_trim (cs : List Char) : Trimmed cs (trim cs) := by
  obtain ⟨before, hcs, hbefore⟩ := exists_trimStart cs
  obtain ⟨after, hcore, hafter⟩ := exists_trimEnd (trimStart cs)
  constructor
  case exists_eq_append =>
    refine ⟨before, after, ?_, hbefore, hafter⟩
    rw [List.append_assoc, trim, ← hcore, ← hcs]
  case head_not_blank =>
    intro c hc
    have hhead : c ∈ (trimStart cs).head? := by
      rw [hcore, List.head?_append]
      exact Option.or_eq_some_iff.2 (Or.inl hc)
    exact isBlank_head_trimStart hhead
  case last_not_blank => exact fun c hc => isBlank_last_trimEnd hc

/-- Trimming leaves the one core that white space surrounds, nothing if there is only white
space. -/
theorem trim_eq_iff {cs core : List Char} : trim cs = core ↔ Trimmed cs core := by
  constructor
  · rintro rfl
    exact trimmed_trim cs
  · rintro ⟨⟨before, after, rfl, hbefore, hafter⟩, hfirst, hlast⟩
    rcases List.eq_nil_or_concat core with rfl | ⟨_, _, rfl⟩
    · apply trim_eq_nil
      intro c hc
      rw [List.append_nil] at hc
      exact (List.mem_append.1 hc).elim (hbefore c) (hafter c)
    · exact trim_append hbefore hafter (by simp) hfirst hlast

end Text
end BoundQuery
