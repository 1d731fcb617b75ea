import SqlAssist.CommandLine.Arguments
import SqlAssist.CommandLine.FileTree
import SqlAssist.CommandLine.TokenTable
import SqlAssist.Config
import SqlAssist.Editor.Basic

/-!
# Commands

The commands that show what the editor makes of a text in SQL: its tokens, its column list, the text
with its highlighting, the suggestions at a cursor, and the place of an error.

`Invocation.parse` reads the arguments; `Invocation.run` gives what is printed and the exit code,
from the files that the invocation names.
-/
namespace SqlAssist

/-- What is to be shown. -/
inductive Task where
  | tokens
  | columns
  | highlight
  | complete (cursor : Option Int) (tables : List String)
  /-- The place that a message is about; there may be no message. -/
  | error (message : Option String)
  deriving DecidableEq, Repr

/-- A task, the text that it is about, and what holds for all tasks. -/
structure Invocation where
  config : Option String
  verbose : Bool
  task : Task
  file : String
  deriving DecidableEq, Repr

/-- The name that stands for the standard input. -/
def standardInput : String := "-"

namespace Invocation

/-! ## Arguments -/

/-- The exit code after the help was shown. -/
def exitHelp : Nat := 0

/-- The exit code for a mistake in the arguments. -/
def exitMistake : Nat := 2

open Arguments (OptionRule Finding Parsed)

/-- The option for help. -/
def helpRule : OptionRule := ⟨"help", ["-h", "--help"], false⟩

/-- The options before the command. -/
def globalRules : List OptionRule :=
  [helpRule, ⟨"config", ["--config"], true⟩, ⟨"verbose", ["-v", "--verbose"], false⟩]

/-- The options of the command for suggestions. -/
def completeRules : List OptionRule :=
  [helpRule, ⟨"cursor", ["--cursor"], true⟩, ⟨"table", ["--table"], true⟩]

/-- Digits of any script with single underscores between them, as one number. -/
def digitsValue? (text : List Char) : Option Nat :=
  let digits := text.filter (· != '_')
  if digits.isEmpty || !digits.all Text.isDigit || text.head? = some '_' ||
      text.getLast? = some '_' || Entry.hasDoubleUnderscore text ||
      Text.maxDigits < digits.length then none
  else some (Text.digitsValue digits)

/-- A blank that may stand around a number: one of any kind, but no information separator. -/
def isBlankAround (c : Char) : Bool := Text.isBlank c && !(0x1c ≤ c.toNat && c.toNat ≤ 0x1f)

/-- The whole number that an argument stands for. -/
def readInt? (argument : String) : Option Int :=
  let text := ((argument.toList.dropWhile isBlankAround).reverse.dropWhile isBlankAround).reverse
  match text with
  | '-' :: digits => (digitsValue? digits).map fun n => -(n : Int)
  | '+' :: digits => (digitsValue? digits).map fun n => (n : Int)
  | digits => (digitsValue? digits).map fun n => (n : Int)

/-- What the arguments after a command have given so far. -/
structure TaskArguments where
  cursor : Option Int := none
  tables : List String := []
  /-- The operands; one can be left without a text. -/
  operands : List (Option String) := []

/-- Takes the findings after a command. -/
def takeFindings (given : TaskArguments) : List Finding → Except Nat TaskArguments
  | [] => .ok given
  | .value "cursor" text :: rest =>
    match readInt? text with
    | some n => takeFindings { given with cursor := some n } rest
    | none => .error exitMistake
  | .value _ text :: rest => takeFindings { given with tables := given.tables ++ [text] } rest
  | .operand slice :: rest =>
    takeFindings { given with operands := given.operands ++ [(slice.erase "--").head?] } rest
  | .flag _ :: _ => .error exitHelp
  | .command _ :: rest => takeFindings given rest

/-- The task and its file of a command, and the arguments without use. -/
def parseTask (name : String) (arguments : List String) :
    Except Nat (Task × String × List String) := do
  let parsed : Parsed := match name with
    | "complete" => Arguments.parse completeRules (.count 1) arguments
    | "error" => Arguments.parse [helpRule] (.count 2) arguments
    | _ => Arguments.parse [helpRule] (.count 1) arguments
  let given ← takeFindings {} parsed.findings
  if parsed.mistaken then throw exitMistake
  let file := (given.operands.head?.bind id).getD ""
  let task : Task ← match name with
    | "tokens" => pure .tokens
    | "columns" => pure .columns
    | "highlight" => pure .highlight
    | "complete" => pure (.complete given.cursor given.tables)
    | "error" => pure (.error (given.operands[1]?.bind id))
    | _ => throw exitMistake
  return (task, file, parsed.extras)

/-- The names of the commands. -/
def commandNames : List String := ["tokens", "columns", "highlight", "complete", "error"]

/-- What the arguments have given so far. -/
structure GlobalArguments where
  config : Option String := none
  verbose : Bool := false
  task : Option (Task × String × List String) := none

/-- Takes the findings among all arguments. -/
def takeGlobalFindings (given : GlobalArguments) : List Finding → Except Nat GlobalArguments
  | [] => .ok given
  | .value _ text :: rest => takeGlobalFindings { given with config := some text } rest
  | .flag "verbose" :: rest => takeGlobalFindings { given with verbose := true } rest
  | .flag _ :: _ => .error exitHelp
  | .command (name :: arguments) :: rest => do
    if !commandNames.contains name then throw exitMistake
    takeGlobalFindings { given with task := some (← parseTask name arguments) } rest
  | .command [] :: _ => .error exitMistake
  | .operand _ :: rest => takeGlobalFindings given rest

/-- Reads the arguments of an invocation, or gives the exit code if there is nothing to do. -/
def parse (arguments : List String) : Except Nat Invocation := do
  let parsed := Arguments.parse globalRules .command arguments
  let given ← takeGlobalFindings {} parsed.findings
  if parsed.mistaken then throw exitMistake
  match given.task with
  | some (task, file, []) =>
    if parsed.extras.isEmpty then return ⟨given.config, given.verbose, task, file⟩
    else throw exitMistake
  | _ => throw exitMistake

/-! ## Running -/

/-- Why an invocation ends without an answer. -/
inductive RunError where
  /-- A file is not a text. -/
  | notText
  /-- A number has too many digits. -/
  | tooManyDigits
  /-- The values of the configuration are nested too deep. -/
  | tooDeep
  /-- A rule broke off when the configuration was checked. -/
  | brokenOff
  /-- A path is no name that a file can have. -/
  | invalidName
  /-- There is no message to look for a place in. -/
  | noMessage
  /-- The parser has failed. -/
  | parserBroken (message : String)
  deriving DecidableEq, Repr

/-- What an invocation leads to. -/
structure Answer where
  exit : Nat
  output : List Char
  log : List LogEntry := []
  deriving DecidableEq, Repr

/-- A text with plain line ends. -/
def plainLineEnds : List Char → List Char
  | '\r' :: '\n' :: rest => '\n' :: plainLineEnds rest
  | '\r' :: rest => '\n' :: plainLineEnds rest
  | c :: rest => c :: plainLineEnds rest
  | [] => []

/-- What is found at the place of the configuration. -/
def configFile : Except FileError ByteArray → Except RunError Config.File
  | .ok content => .ok (.content content)
  | .error .notFound => .ok .missing
  | .error .invalidName => .error .invalidName
  | .error _ => .ok .directory

/-- The configuration, and what there is to note about it. -/
def loadConfig (rules : Rules) (limits : Config.Limits) (found : Except FileError ByteArray) :
    Except RunError (Config × List LogEntry) := do
  match Config.load rules limits (← configFile found) with
  | .ok loaded => return loaded
  | .error .notText => throw .notText
  | .error .tooManyDigits => throw .tooManyDigits
  | .error .tooDeep => throw .tooDeep
  | .error .brokenOff => throw .brokenOff

/-- The streams of a configuration, with more streams that have no fields. -/
def withExtraStreams (streams : Streams) (extra : List String) : Streams :=
  extra.foldl (fun known name =>
    if (Assoc.get? name known).isSome then known else known ++ [(name, [])]) streams

/-- The editor of a configuration, with more streams. -/
def editorFor (config : Config) (extra : List String) (parser : Parser) : Editor :=
  { catalog := StreamCatalog.ofStreams (withExtraStreams config.streams extra)
    settings := config.editor
    theme := config.styles
    parser }

/-- Lets an editor answer: the answer and the log. -/
def answerOf {α : Type} (request : Noted α) : Except RunError (α × List LogEntry) :=
  let (answer, notes) := request.run.run []
  let log := LogEntry.buildingEditor :: notes.filterMap fun
    | .logged entry => some entry
    | _ => none
  match answer with
  | .ok a => .ok (a, log)
  | .error (.parserBroken message) => .error (.parserBroken message)
  | .error .tooManyDigits => .error .tooManyDigits

/-- A line with a range and the text in it. -/
def rangeLine (range : TextRange) (text : List Char) : List Char :=
  Terminal.printed ((toString range.start ++ "-" ++ toString range.stop ++ ": ").toList ++
    range.slice text)

/-- A line of the answer to a question that may have none. -/
def rangeAnswer (found : Option TextRange) (text : List Char) (otherwise : String) : Answer :=
  match found with
  | some range => ⟨0, rangeLine range text, []⟩
  | none => ⟨1, Terminal.printed otherwise.toList, []⟩

/-- The line of a suggestion. -/
def suggestionLine (item : Suggestion) : List Char :=
  let detail := match item.detail with
    | some detail => if detail.isEmpty then "" else "  " ++ detail
    | none => ""
  Terminal.printed (item.kind.label ++ " " ++ item.display ++ detail).toList

/-- Does a task for a text. -/
def runTask (task : Task) (config : Config) (parser : Parser) (text : List Char) :
    Except RunError Answer := do
  match task with
  | .tokens => return ⟨0, TokenTable.render text, []⟩
  | .columns => return rangeAnswer (columnList? text) text "No column list found."
  | .highlight =>
    let (styled, log) ← answerOf ((editorFor config [] parser).highlightedText text)
    return ⟨0, Terminal.printed styled.plain, log⟩
  | .complete cursor tables =>
    let (found, log) ←
      answerOf ((editorFor config tables parser).suggest text (cursor.getD text.length))
    return ⟨0, found.items.flatMap suggestionLine, log⟩
  | .error none => throw .noMessage
  | .error (some message) =>
    match errorRange message.toList text with
    | .ok found => return rangeAnswer found text "No position found in error message."
    | .error .tooManyDigits => throw .tooManyDigits

/-- The answer if the text cannot be read. -/
def unreadable (file : String) (error : FileError) : Answer :=
  ⟨1, Terminal.printed ("Could not read " ++ file ++ ": " ++ error.message).toList, []⟩

/-- Runs an invocation with what was found at the places of its configuration and its text. The log
stays empty unless it is asked for. -/
def run (invocation : Invocation) (parser : Parser) (rules : Rules) (limits : Config.Limits)
    (config source : Except FileError ByteArray) : Except RunError Answer := do
  let (config, loadLog) ← loadConfig rules limits config
  let answer ← match source with
    | .error .invalidName => throw RunError.invalidName
    | .error e => pure (unreadable invocation.file e)
    | .ok content =>
      match String.fromUTF8? content with
      | some text => runTask invocation.task config parser (plainLineEnds text.toList)
      | none => throw RunError.notText
  return { answer with log := if invocation.verbose then loadLog ++ answer.log else [] }

end Invocation

end SqlAssist
