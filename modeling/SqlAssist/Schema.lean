import SqlAssist.StreamCatalog
import SqlAssist.Validation

/-!
# Schemas

A server describes the fields of a stream as a table with a list of `fields`, or as that list alone.
The type of a field can be any value; it is kept as the text that is shown for it.
-/
namespace SqlAssist

namespace SchemaField

/-- The type of a field whose description has none. -/
def unknownType : String := "Unknown"

/-- The whole number that a type given as a fraction is shown as, below `10 ^ 15`. -/
def wholeType? (x : Float) : Option Int :=
  (Binary64.toInt? x).filter fun n => n.natAbs < tenTo 15

/-- The text that is shown for a type; nothing if a number in it has too many digits. -/
def shownType? : Value → Option String
  | .null => some "null"
  | .bool b => some (if b then "true" else "false")
  | .float x =>
    match wholeType? x with
    | some n => Value.shownInt? n
    | none => some (writtenFloat x)
  | .table entries => some ("\x7b" ++ toString entries.length ++ " fields\x7d")
  | .list items => some ("[" ++ toString items.length ++ " items]")
  | value => value.shown?

variable (rules : Rules)

/-- Checks a name. -/
def checkName (value : Value) : Checked String := Checked.byRule (rules.string value)

/-- Checks the type of a field: the text that is shown for it. -/
def checkType (value : Value) : Checked String :=
  match shownType? value with
  | some s => Checked.byRule (rules.string (.string s))
  | none => .fail .refused

/-- Checks the description of a field: it needs a name. -/
def check : Value → Checked SchemaField :=
  Checked.table fun entries =>
    (Checked.both (Checked.field entries "name" (checkName rules) (Checked.fail .missing))
      (Checked.field entries "data_type" (checkType rules) (.ok unknownType))).map
        fun (name, dataType) => ⟨name, dataType⟩

end SchemaField

namespace Schema

/-- Checks the description of the fields of a stream. -/
def check (rules : Rules) (value : Value) : Checked (List SchemaField) :=
  let checkTable := Checked.table fun entries =>
    Checked.field entries "fields" (Checked.list (SchemaField.check rules)) (.ok [])
  match value with
  | .list items => checkTable (.table [("fields", .list items)])
  | _ => checkTable value

end Schema

end SqlAssist
