import SqlAssist.StyledText
import SqlAssist.Text.Blank
import SqlAssist.Text.Width

/-!
# Text on a terminal

How a text is printed: without the characters that a terminal text cannot hold, with tabs as blanks
up to the next stop, and with a line end after it. In a cell of a table the text is also broken into
lines that fit.
-/
namespace SqlAssist.Terminal

/-- The distance of the tab stops. -/
def tabSize : Nat := 8

/-- A line with its tabs as blanks, from a column on. -/
def expandTabs (column : Nat) : List Char → List Char
  | [] => []
  | c :: rest =>
    if c = '\t' then
      let count := tabSize - column % tabSize
      List.replicate count ' ' ++ expandTabs (column + count) rest
    else c :: expandTabs (column + Text.width c) rest

/-- The parts of a text between the characters of a class. -/
def splitAt (isEnd : Char → Bool) : List Char → List (List Char)
  | [] => [[]]
  | c :: rest =>
    if isEnd c then [] :: splitAt isEnd rest
    else
      match splitAt isEnd rest with
      | first :: more => (c :: first) :: more
      | [] => [[c]]

/-- The lines of a text. -/
def lines (text : List Char) : List (List Char) := splitAt (· == '\n') text

/-- A text as it is printed. -/
def printed (text : List Char) : List Char :=
  (lines (terminalText text)).flatMap fun line => expandTabs 0 line ++ ['\n']

/-! ## Cells -/

/-- A character that ends a line when the width of a text is taken. -/
def isLineEnd (c : Char) : Bool :=
  [0x0a, 0x0b, 0x0c, 0x0d, 0x1c, 0x1d, 0x1e, 0x85, 0x2028, 0x2029].contains c.toNat

/-- The width of the widest line of a text. Tabs count as nothing. -/
def widest (text : List Char) : Nat :=
  ((splitAt isLineEnd text).map Text.cells).foldl max 0

/-- A text without the blanks at its end. -/
def withoutEndBlanks (text : List Char) : List Char := (text.reverse.dropWhile Text.isBlank).reverse

/-- The words of a line with the blanks around them, at most `fuel` of them. -/
def words : Nat → List Char → List (List Char)
  | 0, _ => []
  | fuel + 1, text =>
    let lead := text.takeWhile Text.isBlank
    let body := (text.drop lead.length).takeWhile (!Text.isBlank ·)
    let tail := (text.drop (lead.length + body.length)).takeWhile Text.isBlank
    if body.isEmpty then []
    else
      let word := lead ++ body ++ tail
      word :: words fuel (text.drop word.length)

/-- The words that stand on each line of the given width. `used` is the width of the words on the
open line. A word that is too wide for any line stands on a line of its own with what still fits. -/
def fillLines (width : Nat) : (used : Nat) → (line : List Char) → List (List Char) →
    List (List Char)
  | _, line, [] => [line]
  | used, line, word :: rest =>
    if used + Text.cells (withoutEndBlanks word) ≤ width || line.isEmpty then
      fillLines width (used + Text.cells word) (line ++ word) rest
    else line :: fillLines width (Text.cells word) word rest

/-- A line without the blanks at its end that lie beyond a width. -/
def withoutExcess (width : Nat) (line : List Char) : List Char :=
  let blanks := line.length - (withoutEndBlanks line).length
  line.take (line.length - min blanks (line.length - width))

/-- A line of exactly the given width: filled up with blanks, or cut with dots at its end. -/
def fit (width : Nat) (line : List Char) : List Char :=
  if Text.cells line ≤ width then line ++ List.replicate (width - Text.cells line) ' '
  else line.take (width - 1) ++ ['…']

/-- The lines of a text in a cell of the given width. -/
def cellLines (width : Nat) (text : List Char) : List (List Char) :=
  (lines text).flatMap fun line =>
    let line := expandTabs 0 line
    let parts := match words line.length line with
      | [] => [line]
      | found => fillLines width 0 [] found
    parts.map fun part => fit width (withoutExcess width part)

end SqlAssist.Terminal
