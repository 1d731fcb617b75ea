import SqlAssist.CommandLine.Terminal
import SqlAssist.Lexer
import SqlAssist.Text.Literal

/-!
# The table of tokens

The tokens of a text as a table with lines around its cells. Each column is as wide as its widest
cell; a value of several lines makes a row of several lines.
-/
namespace SqlAssist.TokenTable

/-- The heads of the columns. -/
def heads : List (List Char) := ["Kind", "Range", "Value", "Text"].map (·.toList)

/-- The cells of a token. -/
def cells (token : Token) : List (List Char) :=
  [token.kind.name.toList, (toString token.start ++ "-" ++ toString token.stop).toList,
   terminalText (token.value?.getD []), Text.literal token.text]

/-- The widths of the columns. -/
def widths (rows : List (List (List Char))) : List Nat :=
  rows.foldl (fun found row => List.zipWith max found (row.map Terminal.widest))
    (heads.map fun _ => 0)

/-- A line between two rows, from its corners, its crossings and its strokes. -/
def rule (left stroke crossing right : Char) (widths : List Nat) : List Char :=
  left :: [crossing].intercalate (widths.map fun w => List.replicate (w + 2) stroke) ++
    [right, '\n']

/-- A line of a row with bars between its cells. -/
def rowLine (bar : Char) (cells : List (List Char)) : List Char :=
  bar :: [bar].intercalate (cells.map fun cell => ' ' :: cell ++ [' ']) ++ [bar, '\n']

/-- A row. Cells with fewer lines than others are filled up with empty lines. -/
def row (bar : Char) (widths : List Nat) (cells : List (List Char)) : List Char :=
  let columns := List.zipWith Terminal.cellLines widths cells
  let height := (columns.map List.length).foldl max 0
  (List.range height).flatMap fun i =>
    rowLine bar (List.zipWith (fun w column => column.getD i (List.replicate w ' ')) widths columns)

/-- The table of the tokens of a text. -/
def render (text : List Char) : List Char :=
  let rows := (tokenize text).map cells
  let widths := widths (heads :: rows)
  rule '┏' '━' '┳' '┓' widths ++ row '┃' widths heads ++ rule '┡' '━' '╇' '┩' widths ++
    rows.flatMap (row '│' widths) ++ rule '└' '─' '┴' '┘' widths

end SqlAssist.TokenTable
