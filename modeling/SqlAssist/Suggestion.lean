import SqlAssist.ColumnList
import SqlAssist.Slot
import SqlAssist.StreamCatalog
import SqlAssist.Vocabulary

/-!
# Suggestions

`suggestions` lists what could complete the word before the cursor. The slot of the text before that
word decides where candidates come from: tables, columns and functions, the word `BY`, or all
vocabularies. Each source is sorted by code points and keeps the candidates that start with the
typed characters in any case.
-/
namespace SqlAssist

/-- Where a suggestion comes from. -/
inductive SuggestionKind where
  | keyword
  | function
  | table
  | column
  deriving DecidableEq, Repr

/-- The letter that a kind is shown by. -/
def SuggestionKind.label : SuggestionKind → String
  | .keyword => "K"
  | .function => "F"
  | .table => "T"
  | .column => "C"

/-- The kind with the given written name. -/
def SuggestionKind.ofName? : String → Option SuggestionKind
  | "keyword" => some .keyword
  | "function" => some .function
  | "table" => some .table
  | "column" => some .column
  | _ => none

/-- One suggestion: what is shown, and what is put into the text when it is chosen. -/
structure Suggestion where
  kind : SuggestionKind
  display : String
  insert : String
  detail : Option String
  deriving DecidableEq, Repr

namespace Suggestion

/-- A suggestion that inserts what it shows unless it is given something else to insert. -/
def make (kind : SuggestionKind) (display : String) (insert : String) (detail : Option String) :
    Suggestion :=
  ⟨kind, display, if insert.isEmpty then display else insert, detail⟩

/-- The suggestion of a word of a vocabulary. -/
def ofWord (kind : SuggestionKind) (word : String) : Suggestion := make kind word "" none

/-- The suggestion of a table: shown in quotes and inserted without, so that it goes on with what is
typed. -/
def ofTable (name : String) : Suggestion :=
  make .table (String.ofList (quoted name.toList)) name none

/-- The suggestion of a field, with its type. -/
def ofField (field : SchemaField) : Suggestion :=
  make .column field.name "" (some field.dataType)

end Suggestion

/-- The suggestions for a place of a text, the word typed there and its range. -/
structure Suggestions where
  items : List Suggestion
  typed : List Char
  range : TextRange
  deriving DecidableEq, Repr

/-- A character of the word before the cursor: an ASCII letter or digit, or the underscore. -/
def isTypedChar (c : Char) : Bool := c.isAlphanum || c == '_'

/-- The word that ends a text. -/
def typedWord (text : List Char) : List Char := (text.reverse.takeWhile isTypedChar).reverse

namespace Suggestions

/-- What can be suggested: the known tables, fields and words. -/
structure Sources where
  tables : List String
  fields : List SchemaField
  keywords : Vocabulary := Vocabulary.keywords
  functions : Vocabulary := Vocabulary.functions

/-- Whether a name starts with the typed characters, in any case. -/
def startsWith (name : String) (typed : List Char) : Bool :=
  (Text.upper typed).isPrefixOf (Text.upper name.toList)

/-- The tables that start with the typed characters, sorted. -/
def tableItems (tables : List String) (typed : List Char) : List Suggestion :=
  ((tables.mergeSort fun a b => decide (a ≤ b)).filter (startsWith · typed)).map Suggestion.ofTable

/-- The fields that start with the typed characters, sorted by name; fields of one name keep their
order. -/
def fieldItems (fields : List SchemaField) (typed : List Char) : List Suggestion :=
  ((fields.mergeSort fun a b => decide (a.name ≤ b.name)).filter (startsWith ·.name typed)).map
    Suggestion.ofField

/-- The words of a vocabulary that start with the typed characters. -/
def wordItems (kind : SuggestionKind) (vocabulary : Vocabulary) (typed : List Char) :
    List Suggestion :=
  (vocabulary.startingWith typed).map (Suggestion.ofWord kind)

/-- The candidates for a slot that start with the typed characters. -/
def candidates (sources : Sources) (slot : Slot) (typed : List Char) : List Suggestion :=
  match slot with
  | .tableRef => tableItems sources.tables typed
  | .columnRef => fieldItems sources.fields typed ++ wordItems .function sources.functions typed
  | .afterOrder | .afterGroup =>
    if (Text.upper typed).isPrefixOf "BY".toList then [Suggestion.ofWord .keyword "BY"] else []
  | .general =>
    wordItems .keyword sources.keywords typed ++ wordItems .function sources.functions typed ++
      tableItems sources.tables typed ++ fieldItems sources.fields typed

/-- Whether the only candidate is what has been typed already. -/
def repeatsTyped (items : List Suggestion) (typed : List Char) : Bool :=
  match items with
  | [item] => Text.upper item.display.toList == Text.upper typed
  | _ => false

end Suggestions

/-- The suggestions for the word before the cursor. There are none for a cursor outside of the text
or at its start, without a word before the cursor, and if the only candidate is the word itself. -/
def suggestions (text : List Char) (cursor : Int) (sources : Suggestions.Sources) : Suggestions :=
  if cursor ≤ 0 ∨ text.length < cursor then ⟨[], [], ⟨0, 0⟩⟩
  else
    let before := text.take cursor.toNat
    let typed := typedWord before
    let range := ⟨cursor - typed.length, cursor⟩
    if typed.isEmpty then ⟨[], [], range⟩
    else
      let slot := Slot.after (before.take (before.length - typed.length))
      let items := Suggestions.candidates sources slot typed
      if Suggestions.repeatsTyped items typed then ⟨[], typed, range⟩ else ⟨items, typed, range⟩

end SqlAssist
