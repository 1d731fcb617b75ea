import SqlAssist.Log
import SqlAssist.Schema
import SqlAssist.Settings
import SqlAssist.StyledText
import SqlAssist.Toml.Document

/-!
# Configuration

A `Config` holds the settings of the editor, its theme and the streams that it knows. It is kept in
a file in TOML. `Config.load` reads such a file and falls back to the usual configuration if the
file is missing, is not TOML or holds something that does not pass the checks. `Config.save` writes
it.

Loading rests on the `Rules` of the checks and on the `Limits` of the stack.
-/
namespace SqlAssist

/-- The configuration of the editor. -/
structure Config where
  editor : Settings := {}
  styles : Theme := Theme.default
  streams : Streams := []

namespace Config

/-- The names of the streams, sorted. -/
def streamNames (config : Config) : List String :=
  (Assoc.keys config.streams).mergeSort fun a b => decide (a ≤ b)

/-! ## Loading -/

/-- What is found at the place of a configuration file. -/
inductive File where
  | missing
  /-- A directory, or a path that leads through a file. -/
  | directory
  | content (bytes : ByteArray)

/-- Why a file can neither be loaded nor passed over. -/
inductive LoadError where
  /-- Its bytes are no text. -/
  | notText
  /-- A whole number in it has too many digits. -/
  | tooManyDigits
  /-- Its values are nested too deep. -/
  | tooDeep
  /-- A rule broke off. -/
  | brokenOff
  deriving DecidableEq, Repr

/-- How deep values can be nested before the stack is exhausted. How deep that is hangs on the kinds
of the values and on what is on the stack already, so every run has limits of its own. -/
structure Limits where
  /-- How many brackets a value that is read can be within. -/
  reading : Nat
  /-- How deep a value that is shown can be nested. -/
  showing : Nat

/-- The limits that leave nearly the whole stack to a file. -/
def Limits.usual : Limits := ⟨490, 990⟩

/-- The items of a stream in a document: the tables of a list, or the list of its fields as it
is. -/
def streamItems? : Value → Option (List Value)
  | .list items => some (items.filter fun item => item.entries?.isSome)
  | .table entries =>
    match Assoc.get? "fields" entries with
    | some (.list items) => some items
    | _ => none
  | _ => none

section

variable (rules : Rules) (limits : Limits)

/-- The look that a style gives: the text that is shown for its value. -/
def shownLook (value : Value) : Except LoadError String :=
  if limits.showing < value.depth then .error .tooDeep
  else match value.shown? with
    | some look => .ok look
    | none => .error .tooManyDigits

/-- The styles of a document, each as the text that is shown for it. -/
def shownStyles : List (String × Value) → Except LoadError Theme
  | [] => .ok []
  | (name, value) :: rest => do
    let look ← shownLook limits value
    return (name, look) :: (← shownStyles rest)

/-- The theme of a document: its styles over the usual ones. -/
def documentStyles (document : Toml.Entries) : Except LoadError Theme :=
  match (Assoc.get? "theme" document).bind (·.get? "styles") with
  | some (.table styles) => (shownStyles limits styles).map (Assoc.update Theme.default)
  | _ => .ok Theme.default

/-- Checks the fields of streams. -/
def checkStreams : List (String × List Value) → Checked Streams
  | [] => .ok []
  | (name, items) :: rest =>
    (Checked.both (Checked.within (.key name) (Checked.items (SchemaField.check rules) 0 items))
      (checkStreams rest)).map fun (fields, more) => (name, fields) :: more

/-- Checks the streams of a document. -/
def documentStreams (document : Toml.Entries) : Checked Streams :=
  match Assoc.get? "streams" document with
  | some (.table streams) =>
    Checked.within (.key "streams") (checkStreams rules (streams.filterMap fun (name, value) =>
      (streamItems? value).map fun items => (name, items)))
  | _ => .ok []

/-- Checks the settings of a document. -/
def documentSettings (document : Toml.Entries) : Checked Settings :=
  match Assoc.get? "editor" document with
  | some (.table settings) =>
    Checked.within (.key "editor") (Settings.check rules (.table settings))
  | _ => .ok {}

/-- The configuration that a document describes, after the checks. -/
def ofDocument (document : Toml.Entries) : Except LoadError (Checked Config) :=
  (documentStyles limits document).map fun styles =>
    (Checked.both (documentSettings rules document) (documentStreams rules document)).map
      fun (editor, streams) => ⟨editor, styles, streams⟩

/-- The configuration in a text, and what there is to note about it. -/
def ofText (text : List Char) : Except LoadError (Config × List LogEntry) :=
  match Toml.read limits.reading text with
  | .error .malformed => .ok ({}, [.unreadableConfig])
  | .error .tooManyDigits => .error .tooManyDigits
  | .error .tooDeep => .error .tooDeep
  | .ok document => do
    match ← ofDocument rules limits document with
    | .ok config => return (config, [])
    | .error (.problems _) => return ({}, [.invalidConfig])
    | .error .brokenOff => throw .brokenOff

/-- The configuration in a file, and what there is to note about it. -/
def load : File → Except LoadError (Config × List LogEntry)
  | .missing => .ok ({}, [])
  | .directory => .ok ({}, [.unreadableConfig])
  | .content bytes =>
    match String.fromUTF8? bytes with
    | some text => ofText rules limits text.toList
    | none => .error .notText

end

/-! ## Saving -/

/-- Settings that have not been checked: each can be any value. -/
structure RawSettings where
  maxSuggestions : Value
  debounceDelay : Value
  offloadThreshold : Value
  dialect : Value

/-- Checked settings as values. -/
def rawSettings (settings : Settings) : RawSettings :=
  ⟨.int settings.maxSuggestions, .float settings.debounceDelay, .int settings.offloadThreshold,
   .string settings.dialect⟩

/-- The settings with the given ones in place of theirs. Other names are passed over. -/
def RawSettings.update (raw : RawSettings) (changes : List (String × Value)) : RawSettings :=
  ⟨(Assoc.get? "max_suggestions" changes).getD raw.maxSuggestions,
   (Assoc.get? "debounce_delay" changes).getD raw.debounceDelay,
   (Assoc.get? "offload_threshold" changes).getD raw.offloadThreshold,
   (Assoc.get? "dialect" changes).getD raw.dialect⟩

/-- Why a configuration cannot be saved. -/
inductive SaveError where
  /-- A whole number has too many digits to be written. -/
  | tooManyDigits
  /-- The dialect is not a text. -/
  | dialectNotText
  deriving DecidableEq, Repr

/-- A line that gives a setting its value. -/
def settingLine (name : String) (value : Value) : Except SaveError (List Char) :=
  match value.shown? with
  | some shown => .ok ((name ++ " = " ++ shown).toList)
  | none => .error .tooManyDigits

/-- A text as it is saved. -/
def encoded (s : String) : List Char := Toml.encode s.toList

/-- The line of the dialect. -/
def dialectLine : Value → Except SaveError (List Char)
  | .string dialect => .ok ("dialect = ".toList ++ encoded dialect)
  | _ => .error .dialectNotText

/-- The lines of the settings. -/
def settingLines (raw : RawSettings) : Except SaveError (List (List Char)) := do
  return ["[editor]".toList, ← settingLine "max_suggestions" raw.maxSuggestions,
    ← settingLine "debounce_delay" raw.debounceDelay,
    ← settingLine "offload_threshold" raw.offloadThreshold, ← dialectLine raw.dialect]

/-- The lines of the theme, sorted by the names of the styles. -/
def styleLines (styles : Theme) : List (List Char) :=
  "[theme.styles]".toList :: (styles.mergeSort fun a b => decide (a.1 ≤ b.1)).map
    fun (name, look) => encoded name ++ " = ".toList ++ encoded look

/-- The lines of a field of a stream. -/
def fieldLines (stream : String) (field : SchemaField) : List (List Char) :=
  ["[[streams.".toList ++ encoded stream ++ "]]".toList,
   "name = ".toList ++ encoded field.name,
   "data_type = ".toList ++ encoded field.dataType]

/-- The lines of a stream: a table for each field, or one with an empty list if it has none. -/
def streamLines (stream : String × List SchemaField) : List (List Char) :=
  match stream.2 with
  | [] => [[], "[streams.".toList ++ encoded stream.1 ++ "]".toList, "fields = []".toList]
  | fields => [] :: fields.flatMap (fieldLines stream.1)

/-- The file for the given settings, theme and streams. -/
def saveRaw (raw : RawSettings) (styles : Theme) (streams : Streams) :
    Except SaveError (List Char) := do
  let settings ← settingLines raw
  let lines := settings ++ [[]] ++ styleLines styles ++
    (streams.mergeSort fun a b => decide (a.1 ≤ b.1)).flatMap streamLines
  return lines.flatMap (· ++ ['\n'])

/-- The file for a configuration. -/
def save (config : Config) : Except SaveError (List Char) :=
  saveRaw (rawSettings config.editor) config.styles config.streams

/-! ## Comparing -/

/-- What a number amounts to. -/
inductive Amount where
  | finite (q : Rat)
  | infinite (negative : Bool)
  deriving DecidableEq

/-- What a value amounts to as a number: the truth values are 1 and 0. -/
def amount? : Value → Option Amount
  | .bool b => some (.finite (if b then 1 else 0))
  | .int n => some (.finite n)
  | .float x =>
    match Binary64.decode x with
    | .nan => none
    | .infinite negative => some (.infinite negative)
    | .finite _ _ _ => some (.finite (Binary64.toRat x))
  | _ => none

/-- Whether two settings are equal: equal texts, or numbers that amount to the same. -/
def sameSetting (a b : Value) : Bool :=
  match a, b with
  | .string s, .string t => s == t
  | _, _ =>
    match amount? a, amount? b with
    | some x, some y => x == y
    | _, _ => false

/-- Whether two association lists hold the same, in any order. -/
def sameEntries {α : Type} [DecidableEq α] (a b : List (String × α)) : Bool :=
  a.length == b.length && a.all fun (key, value) => Assoc.get? key b == some value

/-- Whether a configuration is the one with the given settings, theme and streams. -/
def agrees (config : Config) (raw : RawSettings) (styles : Theme) (streams : Streams) : Bool :=
  let own := rawSettings config.editor
  sameSetting own.maxSuggestions raw.maxSuggestions &&
    sameSetting own.debounceDelay raw.debounceDelay &&
    sameSetting own.offloadThreshold raw.offloadThreshold &&
    sameSetting own.dialect raw.dialect &&
    sameEntries config.styles styles && sameEntries config.streams streams

end Config

end SqlAssist
