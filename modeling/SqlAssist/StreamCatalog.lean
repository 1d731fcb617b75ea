import SqlAssist.Data.Assoc
import SqlAssist.Text.Case

/-!
# Streams and their fields

A stream is a table of log records; its schema names its fields. A `StreamCatalog` holds the streams
that can be queried. Two spellings of a name that differ in case or in double quotes mean one
stream.
-/
namespace SqlAssist

/-- A column of a stream: its name, and its type as it is shown. -/
structure SchemaField where
  name : String
  dataType : String
  deriving DecidableEq, Repr

/-- Streams with their fields, in order. -/
abbrev Streams := List (String × List SchemaField)

namespace StreamCatalog

/-- A stream under the spelling that it was given. -/
structure Entry where
  label : String
  fields : List SchemaField
  deriving DecidableEq, Repr

end StreamCatalog

/-- The streams that can be queried, under their normalised names. -/
structure StreamCatalog where
  entries : List (String × StreamCatalog.Entry)
  deriving DecidableEq, Repr

namespace StreamCatalog

/-- The name by which a stream is known: in lower case and without double quotes. -/
def normalise (name : String) : String :=
  String.ofList (Text.lower (name.toList.filter (· != '"')))

/-- The catalog of the given streams. Of two that share a normalised name the later one counts, in
the place of the earlier one. -/
def ofStreams (streams : Streams) : StreamCatalog :=
  ⟨Assoc.ofPairs (streams.map fun (name, fields) => (normalise name, ⟨name, fields⟩))⟩

/-- The names of the streams as they were given. -/
def streamNames (catalog : StreamCatalog) : List String := catalog.entries.map (·.2.label)

/-- The streams that the given names mean, each of them once. -/
def matched (catalog : StreamCatalog) (names : List String) : List Entry :=
  (names.filterMap fun name => Assoc.get? (normalise name) catalog.entries).eraseDups

/-- Keeps the first field of each name that is not among `seen`. -/
def distinctFields (seen : List String) : List SchemaField → List SchemaField
  | [] => []
  | field :: rest =>
    if seen.contains field.name then distinctFields seen rest
    else field :: distinctFields (field.name :: seen) rest

/-- The fields of the named streams, or of all streams if no name means one. Of several fields with
one name the first counts. -/
def fieldsFor (catalog : StreamCatalog) (names : List String) : List SchemaField :=
  let targets : List Entry := match catalog.matched names with
    | [] => catalog.entries.map (·.2)
    | found => found
  distinctFields [] (targets.flatMap (·.fields))

end StreamCatalog

end SqlAssist
