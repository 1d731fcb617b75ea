/-!
# Ranges of a text

A text is a list of characters and an offset counts characters from its start. A `TextRange` is
half open: it begins at `start` and ends before `stop`. Ranges are taken as they come, so the ends
may be in any order, negative, or beyond the text.
-/
namespace SqlAssist

/-- A half-open range of offsets. -/
structure TextRange where
  start : Int
  stop : Int
  deriving DecidableEq, Repr

namespace TextRange

/-- The signed distance from the start to the end. -/
def length (range : TextRange) : Int := range.stop - range.start

/-- Whether the other range lies within this one. -/
def contains (range other : TextRange) : Bool :=
  range.start ≤ other.start && other.stop ≤ range.stop

/-- The place that an offset names in a text of the given length: a negative offset counts from the
end, and one outside of the text stands for the nearer end. -/
def place (length : Nat) (offset : Int) : Nat :=
  if offset < 0 then (offset + length).toNat else min offset.toNat length

/-- The characters of a text that a range covers. -/
def slice (range : TextRange) (text : List Char) : List Char :=
  (text.take (place text.length range.stop)).drop (place text.length range.start)

end TextRange

end SqlAssist
