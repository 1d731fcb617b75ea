import SqlAssist.Text.Ranges

/-!
# Blanks

`isBlank` is the Unicode notion of white space, with the four information separators U+001C to
U+001F.
-/
namespace SqlAssist.Text

/-- The blanks above ASCII. -/
def blankRanges : List (Nat × Nat) :=
  [(0x85, 0x85), (0xa0, 0xa0), (0x1680, 0x1680), (0x2000, 0x200a), (0x2028, 0x2029),
   (0x202f, 0x202f), (0x205f, 0x205f), (0x3000, 0x3000)]

/-- A blank of any kind. -/
def isBlank (c : Char) : Bool :=
  if c.val < 128 then
    c == ' ' || (9 ≤ c.toNat && c.toNat ≤ 13) || (0x1c ≤ c.toNat && c.toNat ≤ 0x1f)
  else inRanges c.toNat blankRanges

/-- Removes the blanks at both ends. -/
def strip (cs : List Char) : List Char :=
  ((cs.dropWhile isBlank).reverse.dropWhile isBlank).reverse

end SqlAssist.Text
