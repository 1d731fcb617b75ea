import SqlAssist.Lexer
import SqlAssist.Pattern
import SqlAssist.Vocabulary

/-!
# Highlighting

`highlightSql` and `highlightJson` find the runs of a text that are shown in a style of their own.
They go by patterns and not by the lexer. Comments and quoted runs come first and protect what is
inside of them: a number or a word that lies within one of them is left out.
-/
namespace SqlAssist

/-- The styles of highlighted runs. -/
inductive Style where
  | comment
  | string
  | quotedIdentifier
  | number
  | keyword
  | function
  | jsonKey
  | jsonString
  | jsonBoolean
  | jsonNull
  | jsonNumber
  deriving DecidableEq, Repr

namespace Style

/-- All styles. -/
def all : List Style :=
  [.comment, .string, .quotedIdentifier, .number, .keyword, .function, .jsonKey, .jsonString,
   .jsonBoolean, .jsonNull, .jsonNumber]

/-- The written name of a style. -/
def name : Style → String
  | .comment => "comment"
  | .string => "string"
  | .quotedIdentifier => "quoted_identifier"
  | .number => "number"
  | .keyword => "keyword"
  | .function => "function"
  | .jsonKey => "json_key"
  | .jsonString => "json_string"
  | .jsonBoolean => "json_boolean"
  | .jsonNull => "json_null"
  | .jsonNumber => "json_number"

/-- The style with the given written name. -/
def ofName? (name : String) : Option Style := all.find? (·.name == name)

end Style

/-- A range of a text in a style. -/
structure StyledSpan where
  range : TextRange
  style : Style
  deriving DecidableEq, Repr

namespace Highlight

open Pattern (char word any all optional)

/-- A comment to the end of the line, or one between `/*` and `*/` or the end of the text. -/
def commentPattern : Pattern :=
  .either
    (all [char '-', char '-', .many (· != '\n')])
    (all [char '/', char '*', .few (fun _ => true), .either (word ['*', '/']) .ending])

/-- A run between two quotes in which each quote stands twice. -/
def quotedPattern (quote : Char) : Pattern :=
  all [char quote, .many (· != quote), .repeated (all [char quote, char quote, .many (· != quote)]),
    char quote]

/-- The runs of SQL that protect what is inside of them. -/
def protectedRules : List (Style × Pattern) :=
  [(.comment, commentPattern), (.string, quotedPattern '\''),
    (.quotedIdentifier, quotedPattern '"')]

/-- Digits. -/
def digits : Pattern := Pattern.some Text.isDigit

/-- A number by itself: digits, and a point with more digits or none. -/
def numberPattern : Pattern :=
  all [.edge, digits, optional (.seq (char '.') digits), .edge]

/-- Whether a character stands for a letter of a word in upper case. Beside the letter in both cases
these are the characters whose other case is that letter: the long s, the Kelvin sign, and the
capital i with and the small i without a dot. -/
def matchesLetter (letter c : Char) : Bool :=
  c == letter || c == letter.toLower ||
    (letter == 'S' && c == 'ſ') || (letter == 'K' && c == '\u212a') ||
    (letter == 'I' && (c == 'İ' || c == 'ı'))

/-- A word of a vocabulary by itself, in any case. -/
def wordPattern (vocabulary : Vocabulary) : Pattern :=
  all [.edge,
    any (vocabulary.words.map fun w =>
      all (w.toList.map fun letter => .one (matchesLetter letter))),
    .edge]

/-- The runs of SQL that are found outside of protected runs, pass by pass. -/
def sqlRules : List (Style × Pattern) :=
  [(.number, numberPattern), (.keyword, wordPattern Vocabulary.keywords),
   (.function, wordPattern Vocabulary.functions)]

/-- The matches of one rule that lie in none of the protected ranges. -/
def unprotected (protectedRanges : List TextRange) (text : List Char) (rule : Style × Pattern) :
    List StyledSpan :=
  ((Found.all [rule] text).map fun found => ⟨found.range, found.rule⟩).filter fun span =>
    !protectedRanges.any (·.contains span.range)

/-- Spans in the order of their starts, and of their ends for equal starts. -/
def sorted (spans : List StyledSpan) : List StyledSpan :=
  spans.mergeSort fun a b =>
    a.range.start < b.range.start || (a.range.start == b.range.start && a.range.stop ≤ b.range.stop)

/-- The protected runs with what the other rules find outside of them. -/
def combined (protectedSpans : List StyledSpan) (rules : List (Style × Pattern))
    (text : List Char) : List StyledSpan :=
  sorted (protectedSpans ++ rules.flatMap (unprotected (protectedSpans.map (·.range)) text))

/-- A string of JSON. -/
def jsonStringPattern : Pattern :=
  let plain := Pattern.many fun c => c != '"' && c != '\\'
  all [char '"', plain, .repeated (all [char '\\', .one (· != '\n'), plain]), char '"']

/-- The exponent of a number of JSON. -/
def jsonExponent : Pattern :=
  all [.one fun c => c == 'e' || c == 'E', optional (.one fun c => c == '+' || c == '-'), digits]

/-- The runs of JSON that are found outside of strings, pass by pass. -/
def jsonRules : List (Style × Pattern) :=
  [(.jsonBoolean, all [.edge, .either (word "true".toList) (word "false".toList), .edge]),
   (.jsonNull, all [.edge, word "null".toList, .edge]),
   (.jsonNumber, all [optional (char '-'), .edge, digits, optional (.seq (char '.') digits),
     optional jsonExponent, .edge])]

/-- The style of a string by what follows it: a colon makes it a key. -/
def jsonStringStyle (after : List Char) : Style :=
  if (after.dropWhile Lexer.isSpace).head? = some ':' then .jsonKey else .jsonString

end Highlight

/-- The highlighted runs of a text in SQL. -/
def highlightSql (text : List Char) : List StyledSpan :=
  let spans := (Found.all Highlight.protectedRules text).map fun found => ⟨found.range, found.rule⟩
  Highlight.combined spans Highlight.sqlRules text

/-- The highlighted runs of a text in JSON. -/
def highlightJson (text : List Char) : List StyledSpan :=
  let spans := (Found.all [((), Highlight.jsonStringPattern)] text).map fun found =>
    ⟨found.range, Highlight.jsonStringStyle found.stop.rest⟩
  Highlight.combined spans Highlight.jsonRules text

end SqlAssist
