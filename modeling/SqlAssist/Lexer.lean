import SqlAssist.Text.Digit
import SqlAssist.Token

/-!
# The lexer

`lex` splits any text into lexemes and loses nothing: the characters of the lexemes, one after the
other, are the text (`lex_text`). It never fails. A comment or a quoted run that is not closed
extends to the end of the text, so half-typed SQL is split as well.

`tokenize` places the lexemes in the text.
-/
namespace SqlAssist

/-- The words that are keywords to the lexer, in upper case. -/
def lexerKeywords : List String :=
  ["SELECT", "DISTINCT", "FROM", "WHERE", "GROUP", "BY", "HAVING", "ORDER", "LIMIT", "OFFSET", "AS",
   "AND", "OR", "NOT", "IN", "IS", "NULL", "LIKE", "BETWEEN", "CASE", "WHEN", "THEN", "ELSE", "END",
   "JOIN", "ON", "LEFT", "RIGHT", "INNER", "OUTER", "CROSS", "FULL", "UNION", "ALL", "INTERSECT",
   "EXCEPT", "INSERT", "UPDATE", "DELETE", "CREATE", "DROP", "ALTER", "SET", "INTO", "VALUES",
   "ASC", "DESC", "EXISTS", "TRUE", "FALSE", "WITH", "RECURSIVE", "OVER", "PARTITION", "WINDOW",
   "ROWS", "RANGE", "UNBOUNDED", "PRECEDING", "FOLLOWING", "CURRENT", "ROW", "FILTER", "LATERAL",
   "NATURAL", "USING", "FETCH", "FIRST", "LAST", "NEXT", "ONLY", "TIES", "TOP"]

namespace Lexer

/-- The white space of SQL. -/
def isSpace (c : Char) : Bool := c == ' ' || c == '\t' || c == '\r' || c == '\n'

/-- A character of the mantissa of a number. -/
def isMantissa (c : Char) : Bool := Text.isDigit c || c == '.'

/-- The rest of a block comment after its opening, with the closing `*/` if there is one, and what
follows it. -/
def commentRest : List Char → List Char × List Char
  | [] => ([], [])
  | [c] => ([c], [])
  | c :: d :: rest =>
    if c = '*' ∧ d = '/' then ([c, d], rest)
    else
      let (body, after) := commentRest (d :: rest)
      (c :: body, after)

/-- The rest of a quoted run after its opening quote, with the closing quote if there is one, and
what follows it. A doubled quote does not close the run. -/
def quotedRest (quote : Char) : List Char → List Char × List Char
  | [] => ([], [])
  | [c] => ([c], [])
  | c :: d :: rest =>
    if c = quote then
      if d = quote then
        let (body, after) := quotedRest quote rest
        (c :: d :: body, after)
      else ([c], d :: rest)
    else
      let (body, after) := quotedRest quote (d :: rest)
      (c :: body, after)

/-- The sign of an exponent, if there is one, and what follows it. -/
def sign : List Char → List Char × List Char
  | [] => ([], [])
  | c :: rest => if c = '+' ∨ c = '-' then ([c], rest) else ([], c :: rest)

/-- The exponent of a number, if there is one, and what follows it: the letter, a sign or none, and
any number of digits, even none. -/
def exponent : List Char → List Char × List Char
  | [] => ([], [])
  | c :: rest =>
    if c = 'e' ∨ c = 'E' then
      let (mark, digits) := sign rest
      (c :: mark ++ digits.takeWhile Text.isDigit, digits.dropWhile Text.isDigit)
    else ([], c :: rest)

/-- The kind of a word. -/
def wordKind (word : List Char) : TokenKind :=
  if lexerKeywords.contains (String.ofList (Text.upper word)) then .keyword else .identifier

/-- The kind of a character that is a token by itself, whatever follows. -/
def punctuation? : Char → Option TokenKind
  | '(' => some .leftParen
  | ')' => some .rightParen
  | ',' => some .comma
  | '*' => some .star
  | _ => none

/-- The first lexeme of the text `c :: cs`, and what follows it. -/
def first (c : Char) (cs : List Char) : Lexeme × List Char :=
  if isSpace c then
    (⟨.whitespace, c :: cs.takeWhile isSpace⟩, cs.dropWhile isSpace)
  else if c = '-' ∧ cs.head? = some '-' then
    (⟨.lineComment, c :: cs.takeWhile (· != '\n')⟩, cs.dropWhile (· != '\n'))
  else if c = '/' ∧ cs.head? = some '*' then
    let (body, after) := commentRest cs.tail
    (⟨.blockComment, c :: '*' :: body⟩, after)
  else if c = '\'' then
    let (body, after) := quotedRest c cs
    (⟨.stringLiteral, c :: body⟩, after)
  else if c = '"' then
    let (body, after) := quotedRest c cs
    (⟨.quotedIdentifier, c :: body⟩, after)
  else match punctuation? c with
    | some kind => (⟨kind, [c]⟩, cs)
    | none =>
      if Text.isDigit c || (c == '.' && cs.head?.any Text.isDigit) then
        let (tail, after) := exponent (cs.dropWhile isMantissa)
        (⟨.number, c :: cs.takeWhile isMantissa ++ tail⟩, after)
      else if Text.isLetter c || c == '_' then
        let word := c :: cs.takeWhile Text.isWordChar
        (⟨wordKind word, word⟩, cs.dropWhile Text.isWordChar)
      else (⟨.other, [c]⟩, cs)

theorem commentRest_append (cs : List Char) : (commentRest cs).1 ++ (commentRest cs).2 = cs := by
  fun_induction commentRest cs <;> simp_all

theorem quotedRest_append (quote : Char) (cs : List Char) :
    (quotedRest quote cs).1 ++ (quotedRest quote cs).2 = cs := by
  fun_induction quotedRest quote cs <;> simp_all

theorem sign_append (cs : List Char) : (sign cs).1 ++ (sign cs).2 = cs := by
  fun_cases sign cs <;> simp

theorem exponent_append (cs : List Char) : (exponent cs).1 ++ (exponent cs).2 = cs := by
  fun_cases exponent cs with
  | case1 => rfl
  | case2 c rest _ mark digits h =>
    have := sign_append rest
    simp [h] at this
    simp [this]
  | case3 => rfl

/-- The first lexeme and what follows it make up the text. -/
theorem first_append (c : Char) (cs : List Char) :
    (first c cs).1.text ++ (first c cs).2 = c :: cs := by
  unfold first
  split
  · simp
  split
  · simp
  split
  · rename_i h
    obtain ⟨_, h⟩ := h
    cases cs with
    | nil => simp at h
    | cons d rest =>
      simp only [List.head?_cons, Option.some.injEq] at h
      simp [h, commentRest_append]
  split
  · simp [quotedRest_append]
  split
  · simp [quotedRest_append]
  split
  · simp
  split
  · have := exponent_append (cs.dropWhile isMantissa)
    simp [this]
  split
  · simp
  · simp

/-- The first lexeme starts with the first character. -/
theorem first_text (c : Char) (cs : List Char) : ∃ rest, (first c cs).1.text = c :: rest := by
  unfold first
  repeat' split
  all_goals exact ⟨_, rfl⟩

theorem first_rest_length (c : Char) (cs : List Char) :
    (first c cs).2.length < (c :: cs).length := by
  obtain ⟨rest, h⟩ := first_text c cs
  have := congrArg List.length (first_append c cs)
  simp [h] at this ⊢
  omega

/-- Splits a text into lexemes. -/
def lex : List Char → List Lexeme
  | [] => []
  | c :: cs => (first c cs).1 :: lex (first c cs).2
termination_by text => text.length
decreasing_by exact first_rest_length c cs

/-- No character is lost: the lexemes, one after the other, are the text. -/
theorem lex_text (text : List Char) : (lex text).flatMap (·.text) = text := by
  fun_induction lex text with
  | case1 => rfl
  | case2 c cs ih => simp [ih, first_append]

end Lexer

/-- Splits a text into tokens, in order and without gaps. -/
def tokenize (text : List Char) : List Token := Token.place 0 (Lexer.lex text)

end SqlAssist
