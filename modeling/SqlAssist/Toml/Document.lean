import SqlAssist.Toml.Scalar

/-!
# Documents in TOML

`Toml.read` reads a document: statements that give values to keys, open tables or append tables to
lists. Tables that are written in one place are closed: `Marks` keeps which names may no longer be
opened or changed.
-/
namespace SqlAssist.Toml

/-- The entries of a table. -/
abbrev Entries := List (String × Value)

/-- A name inside of nested tables. -/
abbrev Key := List String

/-! ## Keys -/

/-- One part of a key. -/
def readKeyPart (text : List Char) : Read String :=
  match text with
  | '"' :: rest => (readBasic false rest).map fun (name, rest) => (String.ofList name, rest)
  | '\'' :: rest => (readLiteral false rest).map fun (name, rest) => (String.ofList name, rest)
  | _ =>
    let name := text.takeWhile isBare
    if name.isEmpty then .error .malformed else .ok (String.ofList name, text.drop name.length)

/-- A key with the blanks after it. The fuel bounds the number of its parts: each takes a
character. -/
def readKey : Nat → List Char → Except Error (Key × List Char)
  | 0, _ => .error .malformed
  | fuel + 1, text => do
    let (part, rest) ← readKeyPart text
    match skipBlanks rest with
    | '.' :: rest =>
      let (key, rest) ← readKey fuel (skipBlanks rest)
      return (part :: key, rest)
    | rest => return ([part], rest)

/-! ## Nested tables -/

/-- Changes the table that a key leads to. Tables that are missing are created; a list leads to its
last table if `throughLists` allows it. There is no change if something else is in the way. -/
def changeAt (throughLists : Bool) (change : Entries → Option Entries) :
    Key → Entries → Option Entries
  | [], entries => change entries
  | name :: key, entries =>
    match Assoc.get? name entries with
    | none =>
      (changeAt throughLists change key []).map fun inner => Assoc.put name (.table inner) entries
    | some (.table inner) =>
      (changeAt throughLists change key inner).map fun inner =>
        Assoc.put name (.table inner) entries
    | some (.list items) =>
      match throughLists, items.getLast? with
      | true, some (.table inner) =>
        (changeAt throughLists change key inner).map fun inner =>
          Assoc.put name (.list (items.dropLast ++ [.table inner])) entries
      | _, _ => none
    | some _ => none

/-- Adds an entry whose name is new. -/
def addEntry (name : String) (value : Value) (entries : Entries) : Option Entries :=
  match Assoc.get? name entries with
  | none => some (Assoc.put name value entries)
  | some _ => none

/-- Appends an empty table to a list, which is created if it is missing. -/
def appendTable (name : String) (entries : Entries) : Option Entries :=
  match Assoc.get? name entries with
  | none => some (Assoc.put name (.list [.table []]) entries)
  | some (.list items) => some (Assoc.put name (.list (items ++ [.table []])) entries)
  | some _ => none

/-- Whether a value is a table or a list, which its own statement closes. -/
def isContainer : Value → Bool
  | .list _ => true
  | .table _ => true
  | _ => false

/-- A change, or the error that it is not possible. -/
def orMalformed {α : Type} : Option α → Except Error α
  | some a => .ok a
  | none => .error .malformed

/-! ## Values -/

/-- Skips the equals sign between a key and its value. -/
def skipEquals (text : List Char) : Except Error (List Char) :=
  match text with
  | '=' :: rest => .ok (skipBlanks rest)
  | _ => .error .malformed

/-- The items of a list up to its closing bracket, each read by `inner`. A comma may stand after the
last one. The fuel bounds their number: behind each but the last there is a comma. -/
def readItems (inner : List Char → Read Value) :
    Nat → List Char → Except Error (List Value × List Char)
  | 0, _ => .error .malformed
  | fuel + 1, text => do
    match ← skipLines false text with
    | ']' :: rest => return ([], rest)
    | text =>
      let (item, rest) ← inner text
      match ← skipLines false rest with
      | ']' :: rest => return ([item], rest)
      | ',' :: rest =>
        let (items, rest) ← readItems inner fuel rest
        return (item :: items, rest)
      | _ => .error .malformed

/-- The entries of a table on one line, up to its closing brace, with values read by `inner`. Tables
and lists among them are closed. The fuel bounds their number as for the items of a list. -/
def readEntries (inner : List Char → Read Value) :
    Nat → List Key → Entries → List Char → Except Error (Entries × List Char)
  | 0, _, _, _ => .error .malformed
  | fuel + 1, closed, entries, text => do
    let (key, rest) ← readKey text.length text
    let (value, rest) ← inner (← skipEquals rest)
    if closed.any (·.isPrefixOf key) then .error .malformed
    else
      let entries ← orMalformed
        (changeAt false (addEntry (key.getLastD "") value) key.dropLast entries)
      match skipBlanks rest with
      | '}' :: rest => return (entries, rest)
      | ',' :: rest =>
        let closed := if isContainer value then key :: closed else closed
        readEntries inner fuel closed entries (skipBlanks rest)
      | _ => .error .malformed

/-- A value, with those inside of it read by `inner`. -/
def readValueWith (inner : List Char → Read Value) (text : List Char) : Read Value :=
  match text with
  | '"' :: _ => (readText '"' text).map fun (chars, rest) => (.string (String.ofList chars), rest)
  | '\'' :: _ => (readText '\'' text).map fun (chars, rest) => (.string (String.ofList chars), rest)
  | 't' :: 'r' :: 'u' :: 'e' :: rest => .ok (.bool true, rest)
  | 'f' :: 'a' :: 'l' :: 's' :: 'e' :: rest => .ok (.bool false, rest)
  | '[' :: rest =>
    (readItems inner (rest.length + 1) rest).map fun (items, rest) => (.list items, rest)
  | '{' :: rest =>
    match skipBlanks rest with
    | '}' :: rest => .ok (.table [], rest)
    | rest =>
      (readEntries inner (rest.length + 1) [] [] rest).map fun (entries, rest) =>
        (.table entries, rest)
  | _ => readScalar text

/-- A value. The depth is how many brackets those inside of it may be within. -/
def readValue : Nat → List Char → Read Value
  | 0 => readValueWith fun _ => .error .tooDeep
  | depth + 1 => readValueWith (readValue depth)

/-! ## Statements -/

/-- The names that may no longer be opened or changed. -/
structure Marks where
  /-- Closed with all that is inside of them: values that are tables or lists. -/
  closed : List Key := []
  /-- Opened as a table already. -/
  opened : List Key := []
  /-- Created by a key with several parts; opened as soon as another table starts. -/
  pending : List Key := []

namespace Marks

/-- Whether a key lies in a closed value. -/
def isClosed (marks : Marks) (key : Key) : Bool := marks.closed.any (·.isPrefixOf key)

/-- Whether a key was opened already. -/
def isOpened (marks : Marks) (key : Key) : Bool := marks.opened.contains key

/-- The marks when another table starts. -/
def settle (marks : Marks) : Marks :=
  { marks with opened := marks.pending ++ marks.opened, pending := [] }

/-- Takes the marks of a key and of all inside of it away. -/
def release (marks : Marks) (key : Key) : Marks :=
  { marks with
    closed := marks.closed.filter (!key.isPrefixOf ·)
    opened := marks.opened.filter (!key.isPrefixOf ·) }

end Marks

/-- What has been read so far: the document, its marks and the table that is open. -/
structure Draft where
  entries : Entries := []
  marks : Marks := {}
  header : Key := []

namespace Draft

/-- Opens a table. -/
def openTable (draft : Draft) (key : Key) : Except Error Draft := do
  let marks := draft.marks.settle
  if marks.isOpened key || marks.isClosed key then .error .malformed
  else
    let entries ← orMalformed (changeAt true some key draft.entries)
    return ⟨entries, { marks with opened := key :: marks.opened }, key⟩

/-- Appends a table to a list and opens it. -/
def openItem (draft : Draft) (key : Key) : Except Error Draft := do
  let marks := draft.marks.settle
  if marks.isClosed key then .error .malformed
  else
    let marks := marks.release key
    let entries ← orMalformed
      (changeAt true (appendTable (key.getLastD "")) key.dropLast draft.entries)
    return ⟨entries, { marks with opened := key :: marks.opened }, key⟩

/-- The tables between the open one and the value of a key. -/
def between (draft : Draft) (key : Key) : List Key :=
  (List.range' 1 (key.length - 1)).map fun count => draft.header ++ key.take count

/-- Gives a value to a key of the open table. -/
def assign (draft : Draft) (key : Key) (value : Value) : Except Error Draft := do
  let tables := draft.between key
  if tables.any draft.marks.isOpened then .error .malformed
  else if draft.marks.isClosed (draft.header ++ key.dropLast) then .error .malformed
  else
    let entries ← orMalformed
      (changeAt true (addEntry (key.getLastD "") value)
        (draft.header ++ key.dropLast) draft.entries)
    let closed := if isContainer value then (draft.header ++ key) :: draft.marks.closed
      else draft.marks.closed
    return { draft with
      entries
      marks := { draft.marks with closed, pending := tables ++ draft.marks.pending } }

end Draft

/-- One statement, from its first character on. -/
def readStatement (depth : Nat) (draft : Draft) (text : List Char) :
    Except Error (Draft × List Char) := do
  match text with
  | '[' :: '[' :: rest =>
    let (key, rest) ← readKey rest.length (skipBlanks rest)
    let draft ← draft.openItem key
    match rest with
    | ']' :: ']' :: rest => return (draft, rest)
    | _ => .error .malformed
  | '[' :: rest =>
    let (key, rest) ← readKey rest.length (skipBlanks rest)
    let draft ← draft.openTable key
    match rest with
    | ']' :: rest => return (draft, rest)
    | _ => .error .malformed
  | '#' :: _ => return (draft, text)
  | _ =>
    let (key, rest) ← readKey text.length text
    let (value, rest) ← readValue depth (← skipEquals rest)
    let draft ← draft.assign key value
    return (draft, rest)

/-- All statements. The fuel bounds their number: each but the last has a line end behind it. -/
def readStatements (depth : Nat) : Nat → Draft → List Char → Except Error Draft
  | 0, _, _ => .error .malformed
  | fuel + 1, draft, text => do
    match skipBlanks text with
    | [] => return draft
    | '\n' :: rest => readStatements depth fuel draft rest
    | text =>
      let (draft, rest) ← readStatement depth draft text
      match ← skipComment (skipBlanks rest) with
      | [] => return draft
      | '\n' :: rest => readStatements depth fuel draft rest
      | _ => .error .malformed

/-- Reads a document. Its values may be within as many brackets as the depth says. -/
def read (depth : Nat) (text : List Char) : Except Error Entries :=
  let text := plainLines text
  (readStatements depth (text.length + 1) {} text).map (·.entries)

end SqlAssist.Toml
