import SqlAssist.Data.Assoc
import SqlAssist.Data.Moment
import SqlAssist.Text.Digit
import SqlAssist.Text.Literal

/-!
# Values of documents

A `Value` is what a configuration file or a schema answer holds: data whose shape is not known until
it has been checked. `shown?` writes a value as text, and `depth` is how deep it is nested.
-/
namespace SqlAssist

/-- A value of any shape. -/
inductive Value where
  | null
  | bool (b : Bool)
  | int (n : Int)
  | float (x : Float)
  | string (s : String)
  | moment (m : Moment)
  | list (items : List Value)
  | table (entries : List (String × Value))
  deriving Inhabited, Repr

namespace Value

/-- A whole number in decimal digits, unless it has too many of them. -/
def shownInt? (n : Int) : Option String :=
  let digits := toString n.natAbs
  if Text.maxDigits < digits.length then none
  else some (if n < 0 then "-" ++ digits else digits)

/-- A name or text inside a list or a table. -/
def describedString (s : String) : String := String.ofList (Text.literal s.toList)

mutual

/-- A value inside a list or a table; nothing if a number in it has too many digits. -/
def described? : Value → Option String
  | .null => some "None"
  | .bool b => some (if b then "True" else "False")
  | .int n => shownInt? n
  | .float x => some (writtenFloat x)
  | .string s => some (describedString s)
  | .moment m => some m.described
  | .list items => (describedItems? items).map fun parts => "[" ++ ", ".intercalate parts ++ "]"
  | .table entries =>
    (describedEntries? entries).map fun parts => "\x7b" ++ ", ".intercalate parts ++ "\x7d"

/-- The descriptions of the values of a list. -/
def describedItems? : List Value → Option (List String)
  | [] => some []
  | item :: rest => do return (← described? item) :: (← describedItems? rest)

/-- The descriptions of the entries of a table. -/
def describedEntries? : List (String × Value) → Option (List String)
  | [] => some []
  | (key, value) :: rest => do
    return (describedString key ++ ": " ++ (← described? value)) :: (← describedEntries? rest)

end

/-- A value by itself: a text as it is, a moment in its usual form, anything else as described. -/
def shown? : Value → Option String
  | .string s => some s
  | .moment m => some m.shown
  | value => value.described?

mutual

/-- How deep lists and tables are nested in a value. -/
def depth : Value → Nat
  | .list items => depthOfItems items + 1
  | .table entries => depthOfEntries entries + 1
  | _ => 0

/-- The depth of the deepest value of a list. -/
def depthOfItems : List Value → Nat
  | [] => 0
  | item :: rest => max (depth item) (depthOfItems rest)

/-- The depth of the deepest value of a table. -/
def depthOfEntries : List (String × Value) → Nat
  | [] => 0
  | (_, value) :: rest => max (depth value) (depthOfEntries rest)

end

/-- The entries of a table, nothing for any other value. -/
def entries? : Value → Option (List (String × Value))
  | .table entries => some entries
  | _ => none

/-- The value under a key of a table. -/
def get? (value : Value) (key : String) : Option Value :=
  value.entries?.bind (Assoc.get? key)

end Value

end SqlAssist
