/-!
# Tables of code points

A class of characters above ASCII is a list of closed intervals of code points, sorted by lower
end and disjoint. Lookup stops at the first interval that starts beyond the code point.
-/
namespace SqlAssist.Text

/-- Whether `n` lies in one of the closed intervals of a sorted table. -/
def inRanges (n : Nat) : List (Nat × Nat) → Bool
  | [] => false
  | (lo, hi) :: rest => if n < lo then false else if n ≤ hi then true else inRanges n rest

/-- The interval of a sorted table that holds `n`. -/
def rangeOf? (n : Nat) : List (Nat × Nat) → Option (Nat × Nat)
  | [] => none
  | (lo, hi) :: rest => if n < lo then none else if n ≤ hi then some (lo, hi) else rangeOf? n rest

end SqlAssist.Text
