/-!
# Character classes as code point ranges

A property of characters is a list of closed ranges of code points. Lists in
ascending order with gaps between their ranges are the only ones used, so each
property has one list.
-/

namespace BoundQuery
namespace Text

def inRanges (ranges : List (Nat × Nat)) (c : Char) : Bool :=
  ranges.any fun range => range.1 ≤ c.toNat && c.toNat ≤ range.2

theorem inRanges_iff (ranges : List (Nat × Nat)) (c : Char) :
    inRanges ranges c = true ↔ ∃ range ∈ ranges, range.1 ≤ c.toNat ∧ c.toNat ≤ range.2 := by
  simp [inRanges]

/-- Whether the ranges ascend and have gaps between them. -/
def areSeparate : List (Nat × Nat) → Bool
  | [] => true
  | [range] => range.1 ≤ range.2
  | range :: next :: rest => range.1 ≤ range.2 && range.2 + 1 < next.1 && areSeparate (next :: rest)

/-- The number of code points in the ranges. -/
def countPoints (ranges : List (Nat × Nat)) : Nat :=
  ranges.foldl (fun n range => n + (range.2 + 1 - range.1)) 0

end Text
end BoundQuery
