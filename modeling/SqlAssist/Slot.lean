import SqlAssist.Lexer

/-!
# What the cursor expects

`Slot.after` tells what kind of name can follow a text: a table after `FROM`, a column after
`SELECT`, and so on. A word that is still being typed at the end of the text does not count; it
reaches back to the last white space, comment, comma or parenthesis.
-/
namespace SqlAssist

/-- What kind of name a place of a text expects. -/
inductive Slot where
  | general
  | tableRef
  | columnRef
  | afterOrder
  | afterGroup
  deriving DecidableEq, Repr

namespace Slot

/-- The written name of a slot. -/
def name : Slot → String
  | .general => "general"
  | .tableRef => "table_ref"
  | .columnRef => "column_ref"
  | .afterOrder => "after_order"
  | .afterGroup => "after_group"

/-- The words that a table follows. -/
def tableWords : List String :=
  ["FROM", "JOIN", "INNER", "LEFT", "RIGHT", "FULL", "CROSS", "NATURAL", "INTO"]

/-- The words that a column follows. -/
def columnWords : List String :=
  ["SELECT", "WHERE", "AND", "OR", "ON", "HAVING", "SET", "BY", "WHEN", "THEN", "ELSE", "CASE",
   "DISTINCT", "NOT", "BETWEEN", "LIKE", "IN", "IS"]

/-- The words that a list of columns belongs to. -/
def columnListWords : List String := ["SELECT", "BY", "WHERE", "HAVING", "ON"]

/-- The words that a list of tables belongs to. -/
def tableListWords : List String := ["FROM", "JOIN"]

/-- Whether the lexeme may be part of the word being typed. -/
def inWord (lexeme : Lexeme) : Bool :=
  match lexeme.kind with
  | .comma | .leftParen | .rightParen => false
  | kind => !kind.isTrivia

/-- The finished words of a text in upper case, the last one first. -/
def finishedWords (text : List Char) : List String :=
  (((Lexer.lex text).reverse.dropWhile inWord).filter (!·.isTrivia)).map fun lexeme =>
    String.ofList (Text.upper lexeme.text)

/-- The slot of an item of a list: the nearest word that a list belongs to decides. -/
def ofList (words : List String) : Slot :=
  (words.findSome? fun word =>
    if columnListWords.contains word then some .columnRef
    else if tableListWords.contains word then some .tableRef
    else none).getD .columnRef

/-- The slot after the given words, the last one first. -/
def ofWords : List String → Slot
  | [] => .general
  | last :: rest =>
    if tableWords.contains last then .tableRef
    else if columnWords.contains last then .columnRef
    else if last = "ORDER" then .afterOrder
    else if last = "GROUP" then .afterGroup
    else if last = "," then ofList (last :: rest)
    else .general

/-- What is expected after a text. -/
def after (text : List Char) : Slot := ofWords (finishedWords text)

end Slot

end SqlAssist
