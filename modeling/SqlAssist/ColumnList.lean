import SqlAssist.Lexer

/-!
# The column list of a SELECT statement

`columnList?` finds what stands between `SELECT` or `SELECT DISTINCT` and the `FROM` that belongs to
it. Only tokens count, so a `FROM` inside a string, a quoted name, a comment or parentheses does not
end the list. `replaceColumns?` puts other columns in its place and keeps the rest of the text.
-/
namespace SqlAssist

namespace ColumnList

/-- The tokens before the first `FROM` at parenthesis depth zero, if there is one. A closing
parenthesis without an opening one leaves the depth at zero. -/
def beforeFrom? (depth : Nat) : List Token → Option (List Token)
  | [] => none
  | token :: rest =>
    if token.kind = .leftParen then (token :: ·) <$> beforeFrom? (depth + 1) rest
    else if token.kind = .rightParen then (token :: ·) <$> beforeFrom? (depth - 1) rest
    else if depth = 0 ∧ token.isKeyword "FROM" then some []
    else (token :: ·) <$> beforeFrom? depth rest

/-- Drops white space and comments at the start. -/
def skipTrivia (tokens : List Token) : List Token := tokens.dropWhile (·.isTrivia)

/-- Drops the keyword if the tokens start with it. -/
def skipKeyword (word : String) : List Token → List Token
  | [] => []
  | token :: rest => if token.isKeyword word then rest else token :: rest

/-- The range from the first token to the last one that is not trivia. -/
def extent? (tokens : List Token) : Option TextRange :=
  match tokens.head?, (skipTrivia tokens.reverse).head? with
  | some first, some last => some ⟨first.start, last.stop⟩
  | _, _ => none

/-- The column list of a list of tokens. -/
def ofTokens? (tokens : List Token) : Option TextRange :=
  match skipTrivia tokens with
  | [] => none
  | head :: rest =>
    if head.isKeyword "SELECT" then
      let list := skipTrivia (skipKeyword "DISTINCT" (skipTrivia rest))
      (beforeFrom? 0 list).bind extent?
    else none

end ColumnList

/-- The range between `SELECT`, with `DISTINCT` or without, and its `FROM`, less the white space and
the comments at its ends; nothing if the text is not of that form. -/
def columnList? (text : List Char) : Option TextRange := ColumnList.ofTokens? (tokenize text)

/-- A name between double quotes, with each double quote in it written twice. -/
def quoted (name : List Char) : List Char :=
  '"' :: name.flatMap (fun c => if c = '"' then ['"', '"'] else [c]) ++ ['"']

/-- The columns as they stand in a column list: quoted and separated by commas, or a star for
none. -/
def projection (columns : List String) : List Char :=
  match columns with
  | [] => ['*']
  | _ => [',', ' '].intercalate (columns.map fun column => quoted column.toList)

/-- The text with other columns in its column list. -/
def replaceColumns? (text : List Char) (columns : List String) : Option (List Char) :=
  (columnList? text).map fun range =>
    text.take range.start.toNat ++ projection columns ++ text.drop range.stop.toNat

/-- The number of rows that the query for a stream asks for. -/
def defaultRowLimit : Int := 1000

/-- The query that an editor starts with for a stream: its newest rows. -/
def defaultQuery (stream : String) (limit : Int) : List Char :=
  "SELECT * FROM ".toList ++ quoted stream.toList ++
    " ORDER BY p_timestamp DESC LIMIT ".toList ++ (toString limit).toList

end SqlAssist
