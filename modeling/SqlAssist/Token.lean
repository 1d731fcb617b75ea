import SqlAssist.Text.Case
import SqlAssist.TextRange

/-!
# Tokens

A `Lexeme` is a kind together with the exact characters it was read from; a `Token` is a lexeme at a
place of a text. What a token stands for (`value?`) is computed from its characters: the upper case
of a keyword, the name between quotes, and so on.
-/
namespace SqlAssist

/-- The kinds of tokens. -/
inductive TokenKind where
  | keyword
  | identifier
  | quotedIdentifier
  | stringLiteral
  | number
  | comma
  | star
  | leftParen
  | rightParen
  | whitespace
  | lineComment
  | blockComment
  | other
  deriving DecidableEq, Repr

/-- The written name of a kind. -/
def TokenKind.name : TokenKind → String
  | .keyword => "keyword"
  | .identifier => "identifier"
  | .quotedIdentifier => "quoted_identifier"
  | .stringLiteral => "string_literal"
  | .number => "number"
  | .comma => "comma"
  | .star => "star"
  | .leftParen => "left_paren"
  | .rightParen => "right_paren"
  | .whitespace => "whitespace"
  | .lineComment => "line_comment"
  | .blockComment => "block_comment"
  | .other => "other"

/-- White space and comments. -/
def TokenKind.isTrivia : TokenKind → Bool
  | .whitespace | .lineComment | .blockComment => true
  | _ => false

/-- A kind of token and the characters it was read from. -/
structure Lexeme where
  kind : TokenKind
  text : List Char
  deriving DecidableEq, Repr

/-- What stands between quotes, up to a quote that is not doubled: a doubled quote stands for
one. -/
def unquoted (quote : Char) : List Char → List Char
  | [] => []
  | [c] => if c = quote then [] else [c]
  | c :: d :: rest =>
    if c = quote then if d = quote then quote :: unquoted quote rest else []
    else c :: unquoted quote (d :: rest)

namespace Lexeme

/-- White space and comments. -/
def isTrivia (lexeme : Lexeme) : Bool := lexeme.kind.isTrivia

/-- What the lexeme stands for: the keyword in upper case, the word or number as written, the
contents of a quoted run, or the lone character. Punctuation and trivia stand for nothing. -/
def value? (lexeme : Lexeme) : Option (List Char) :=
  match lexeme.kind with
  | .keyword => some (Text.upper lexeme.text)
  | .identifier | .number | .other => some lexeme.text
  | .quotedIdentifier => some (unquoted '"' lexeme.text.tail)
  | .stringLiteral => some (unquoted '\'' lexeme.text.tail)
  | _ => none

/-- Whether the lexeme is the given keyword, which is written in upper case. -/
def isKeyword (lexeme : Lexeme) (word : String) : Bool :=
  lexeme.kind == .keyword && lexeme.value? == some word.toList

end Lexeme

/-- A lexeme at a place of a text. -/
structure Token extends Lexeme where
  start : Nat
  deriving DecidableEq, Repr

namespace Token

/-- The offset just past the token. -/
def stop (token : Token) : Nat := token.start + token.text.length

/-- The range of the text that the token covers. -/
def range (token : Token) : TextRange := ⟨token.start, token.stop⟩

/-- Places lexemes one after the other, from the given offset on. -/
def place (start : Nat) : List Lexeme → List Token
  | [] => []
  | lexeme :: rest => ⟨lexeme, start⟩ :: place (start + lexeme.text.length) rest

end Token

/-- Drops white space and comments. -/
def significant (tokens : List Token) : List Token := tokens.filter (!·.isTrivia)

end SqlAssist
