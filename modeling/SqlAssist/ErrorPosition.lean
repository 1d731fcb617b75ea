import SqlAssist.Lexer
import SqlAssist.Text.Blank

/-!
# Positions in error messages

A query engine reports an error at a line and a column. `parse` reads the first position out of a
message, `offset?` turns it into an offset of the text, and `tokenRangeAt?` finds the token there;
`errorRange` does all three.
-/
namespace SqlAssist

/-- A line and a column, both counted from one. -/
structure ErrorPosition where
  line : Nat
  column : Nat
  deriving DecidableEq, Repr

/-- Why a position could not be read: its line or column has too many digits. -/
inductive PositionError where
  | tooManyDigits
  deriving DecidableEq, Repr

namespace ErrorPosition

/-- What follows the given word at the start of a text. -/
def afterWord? (word : List Char) (text : List Char) : Option (List Char) :=
  if word.isPrefixOf text then some (text.drop word.length) else none

/-- A non-empty run of digits at the start of a text, after any blanks, and what follows it. -/
def afterDigits? (text : List Char) : Option (List Char × List Char) :=
  let start := text.dropWhile Text.isBlank
  match start.takeWhile Text.isDigit with
  | [] => none
  | digits => some (digits, start.dropWhile Text.isDigit)

/-- The digits of the line and of the column of a position that starts the text. It is written
`Line: 1, Column: 2`; the second colon may be missing and any blanks may follow the colons, the
comma and the word. -/
def digitsAtStart? (text : List Char) : Option (List Char × List Char) := do
  let afterLine ← afterWord? "Line:".toList text
  let (line, afterLineDigits) ← afterDigits? afterLine
  let afterComma ← afterWord? [','] afterLineDigits
  let afterColumn ← afterWord? "Column".toList (afterComma.dropWhile Text.isBlank)
  let afterColon := (afterWord? [':'] afterColumn).getD afterColumn
  let (column, _) ← afterDigits? afterColon
  return (line, column)

/-- The digits of the first position in a text. -/
def digits? : List Char → Option (List Char × List Char)
  | [] => none
  | c :: rest =>
    match digitsAtStart? (c :: rest) with
    | some found => some found
    | none => digits? rest

/-- The first position in a message. -/
def parse (message : List Char) : Except PositionError (Option ErrorPosition) :=
  match digits? message with
  | none => .ok none
  | some (line, column) =>
    if Text.maxDigits < line.length ∨ Text.maxDigits < column.length then .error .tooManyDigits
    else .ok (some ⟨Text.digitsValue line, Text.digitsValue column⟩)

end ErrorPosition

/-- The offset just past the given number of line breaks. -/
def afterLines? : Nat → List Char → Option Nat
  | 0, _ => some 0
  | _ + 1, [] => none
  | n + 1, c :: rest => (afterLines? (if c = '\n' then n else n + 1) rest).map (· + 1)

/-- The offset of a line and a column, both counted from one; nothing if they are not in the
text. The end of the text counts as a place in it. -/
def offset? (line column : Int) (text : List Char) : Option Nat :=
  if line < 1 ∨ column < 1 then none
  else
    match afterLines? (line - 1).toNat text with
    | none => none
    | some start =>
      let offset := start + (column - 1).toNat
      if text.length < offset then none else some offset

/-- Whether the token covers the offset. -/
def Token.covers (token : Token) (offset : Int) : Bool :=
  token.start ≤ offset && offset < token.stop

/-- The range of the token at an offset. On white space or a comment it is the next token that
counts, and past the end it is the last one. -/
def tokenRangeAt? (offset : Int) (text : List Char) : Option TextRange :=
  let tokens := tokenize text
  match tokens.dropWhile (!·.covers offset) with
  | token :: rest =>
    if token.isTrivia then (significant rest).head?.map (·.range) else some token.range
  | [] =>
    if text.length ≤ offset then (significant tokens).getLast?.map (·.range) else none

/-- The range to mark for an error at a line and a column. -/
def errorRangeAt? (line column : Int) (text : List Char) : Option TextRange :=
  (offset? line column text).bind fun offset => tokenRangeAt? offset text

/-- The range to mark for an error message. -/
def errorRange (message text : List Char) : Except PositionError (Option TextRange) :=
  (ErrorPosition.parse message).map fun position? =>
    position?.bind fun position => errorRangeAt? position.line position.column text

end SqlAssist
