/-!
# Log messages

What the library notes for those who look for the reason of a behaviour.
-/
namespace SqlAssist

/-- An entry of the log. -/
inductive LogEntry where
  | unreadableConfig
  | invalidConfig
  | staleResult
  | unparsableText
  | noErrorPosition
  | buildingEditor
  deriving DecidableEq, Repr

/-- The text of an entry. -/
def LogEntry.message : LogEntry → String
  | .unreadableConfig => "Ignoring unreadable config file"
  | .invalidConfig => "Ignoring invalid config file"
  | .staleResult => "Dropping stale debounced result"
  | .unparsableText => "Skipping table analysis for unparsable buffer"
  | .noErrorPosition => "Error message has no usable position"
  | .buildingEditor => "Building service"

end SqlAssist
