import SqlAssist.ColumnList
import SqlAssist.ErrorPosition
import SqlAssist.Log
import SqlAssist.Settings
import SqlAssist.StyledText
import SqlAssist.Suggestion

/-!
# The editor

An `Editor` answers what a user who types SQL wants to know, with the streams of a catalog and by
the settings and the theme of the user. To see which streams a text names it asks a parser, which
can refuse the text. The analysis of long texts is done aside. What happens on the way to an answer
is kept as notes.
-/
namespace SqlAssist

/-- What a parser says about a text. -/
inductive ParseOutcome where
  /-- The text names these tables, in this order. -/
  | tables (names : List String)
  /-- The text is refused. -/
  | refused (message : String)
  /-- The parser itself has failed. -/
  | broken (message : String)
  deriving DecidableEq, Repr

/-- A parser for a dialect of SQL. -/
abbrev Parser := (dialect : String) → (text : List Char) → ParseOutcome

/-- The parts of an analysis that can be done aside. -/
inductive Chore where
  | tables
  | suggestions
  | slot
  | columnList
  | highlight
  | errorRange
  deriving DecidableEq, Repr

/-- What happens on the way to an answer. -/
inductive Note where
  /-- A text is given to the parser. -/
  | parsed (text : List Char) (dialect : String)
  /-- A part of the analysis is done aside. -/
  | aside (chore : Chore)
  | logged (entry : LogEntry)
  deriving DecidableEq, Repr

/-- Why there is no answer. -/
inductive EditorError where
  /-- The parser has failed. -/
  | parserBroken (message : String)
  /-- A number in an error message has too many digits. -/
  | tooManyDigits
  deriving DecidableEq, Repr

/-- An answer or the reason that there is none, with notes. -/
abbrev Noted := ExceptT EditorError (StateM (List Note))

/-- What an editor knows. -/
structure Editor where
  catalog : StreamCatalog
  settings : Settings := {}
  theme : Theme := Theme.default
  parser : Parser

/-- What the editor finds out about a text. -/
structure TextAnalysis where
  cursor : Nat
  slot : Slot
  typed : List Char
  tables : List String
  columnList : Option TextRange
  errors : List String
  deriving DecidableEq, Repr

namespace Editor

/-- Makes a note. -/
def note (n : Note) : Noted Unit := modify (· ++ [n])

/-- Does a part of the analysis of a text, aside if the text is long. -/
def analysing {α : Type} (editor : Editor) (text : List Char) (chore : Chore) (part : Noted α) :
    Noted α := do
  if editor.settings.offloadThreshold < text.length then note (.aside chore)
  part

/-- The names that are not empty and not among `seen` in any case, each once; the first spelling
counts. -/
def distinctNames (seen : List String) : List String → List String
  | [] => []
  | name :: rest =>
    if name.isEmpty || seen.contains (Text.lowerName name) then distinctNames seen rest
    else name :: distinctNames (Text.lowerName name :: seen) rest

/-- The tables that a text names, or what the parser has against it. -/
def referencedTables (editor : Editor) (text : List Char) : Noted (List String × List String) := do
  let stripped := Text.strip text
  if stripped.isEmpty then return ([], [])
  note (.parsed stripped editor.settings.dialect)
  match editor.parser editor.settings.dialect stripped with
  | .tables names => return (distinctNames [] names, [])
  | .refused message =>
    note (.logged .unparsableText)
    return ([], [String.ofList (Text.strip message.toList)])
  | .broken message => throw (.parserBroken message)

/-- The first items up to a limit; a negative limit counts from the end. -/
def limited {α : Type} (limit : Int) (items : List α) : List α :=
  if (items.length : Int) ≤ limit then items
  else if limit < 0 then items.take (items.length + limit).toNat
  else items.take limit.toNat

/-- The suggestions at a cursor: with the fields of the streams that the text names, and no more
than the settings allow. -/
def suggest (editor : Editor) (text : List Char) (cursor : Int) : Noted Suggestions := do
  let (tables, _) ← editor.analysing text .tables (editor.referencedTables text)
  let sources : Suggestions.Sources :=
    { tables := editor.catalog.streamNames, fields := editor.catalog.fieldsFor tables }
  let found ← editor.analysing text .suggestions (pure (suggestions text cursor sources))
  return { found with items := limited editor.settings.maxSuggestions found.items }

/-- What the editor finds out about a text with a cursor. A cursor outside of the text is moved to
its nearer end. -/
def analyse (editor : Editor) (text : List Char) (cursor : Int) : Noted TextAnalysis := do
  let cursor := (max 0 (min cursor text.length)).toNat
  let typed := typedWord (text.take cursor)
  let before := text.take (cursor - typed.length)
  let slot ← editor.analysing text .slot (pure (Slot.after before))
  let columnList ← editor.analysing text .columnList (pure (columnList? text))
  let (tables, errors) ← editor.analysing text .tables (editor.referencedTables text)
  return ⟨cursor, slot, typed, tables, columnList, errors⟩

/-- The highlighted runs of a text. -/
def highlight (editor : Editor) (text : List Char) : Noted (List StyledSpan) :=
  editor.analysing text .highlight (pure (highlightSql text))

/-- A text with its highlighted runs in the looks of the theme. -/
def highlightedText (editor : Editor) (text : List Char) : Noted StyledText := do
  return StyledText.render text (← editor.highlight text) editor.theme

/-- The range of the column list. -/
def columnList (editor : Editor) (text : List Char) : Noted (Option TextRange) :=
  editor.analysing text .columnList (pure (columnList? text))

/-- The range that an error message is about. -/
def errorRange (editor : Editor) (message text : List Char) : Noted (Option TextRange) := do
  let found ← editor.analysing text .errorRange (match SqlAssist.errorRange message text with
    | .ok found => pure found
    | .error .tooManyDigits => throw .tooManyDigits)
  if found.isNone then note (.logged .noErrorPosition)
  return found

end Editor

end SqlAssist
