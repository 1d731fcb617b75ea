import SqlAssist.Text.Digit

/-!
# Command line arguments

Arguments are options, values of options and operands. An option can be shortened as long as it is
the only one that starts so; a value can be joined to it with an equals sign; options of one letter
can be written together. After `--` all arguments are operands.

`Arguments.parse` gives what it finds in the order in which it is found, up to the first mistake.
-/
namespace SqlAssist.Arguments

/-- An option: its key, its spellings, and whether a value belongs to it. -/
structure OptionRule where
  key : String
  spellings : List String
  takesValue : Bool
  deriving DecidableEq, Repr

/-- What stands in the place of the operands. -/
inductive Operands where
  /-- So many operands. -/
  | count (n : Nat)
  /-- A command, to which all arguments after it belong. -/
  | command
  deriving DecidableEq, Repr

/-- How a single argument is read. -/
inductive Reading where
  | operand
  /-- The mark after which all arguments are operands. -/
  | terminator
  | unknownOption
  /-- An option in one of its spellings. A value may be joined to it, by an equals sign or
  directly. -/
  | option (rule : OptionRule) (spelling : String) (joined : Option (Bool × List Char))
  deriving DecidableEq, Repr

/-- What is found among the arguments. -/
inductive Finding where
  | flag (key : String)
  | value (key text : String)
  /-- The arguments in the place of an operand: the operand and perhaps the mark `--`. -/
  | operand (arguments : List String)
  /-- A command and the arguments after it. -/
  | command (arguments : List String)
  deriving DecidableEq, Repr

/-- All that is found. -/
structure Parsed where
  findings : List Finding := []
  /-- Arguments for which there is no use. -/
  extras : List String := []
  /-- Whether there is a mistake after the findings. -/
  mistaken : Bool := false
  deriving DecidableEq, Repr

/-! ## Reading single arguments -/

/-- The option with a spelling. -/
def ruleOf? (rules : List OptionRule) (spelling : String) : Option OptionRule :=
  rules.find? (·.spellings.contains spelling)

/-- All spellings with their options. -/
def spellings (rules : List OptionRule) : List (String × OptionRule) :=
  rules.flatMap fun rule => rule.spellings.map fun spelling => (spelling, rule)

/-- The part before the first equals sign, and the part after it if there is one. -/
def splitEquals (argument : List Char) : List Char × Option (List Char) :=
  let name := argument.takeWhile (· != '=')
  match argument.drop name.length with
  | _ :: value => (name, some value)
  | [] => (name, none)

/-- Whether an argument looks like a negative number. A line end may follow it. -/
def isNegativeNumber (argument : List Char) : Bool :=
  match argument with
  | '-' :: body =>
    let body := if body.getLast? = some '\n' then body.dropLast else body
    let whole := body.takeWhile Text.isDigit
    match body.drop whole.length with
    | [] => !whole.isEmpty
    | '.' :: fraction => !fraction.isEmpty && fraction.all Text.isDigit
    | _ => false
  | _ => false

/-- The options that an argument can be short for. -/
def candidates (rules : List OptionRule) (argument : List Char) : List Reading :=
  match argument with
  | '-' :: '-' :: _ =>
    let (name, value) := splitEquals argument
    (spellings rules).filterMap fun (spelling, rule) =>
      if name.isPrefixOf spelling.toList then
        some (.option rule spelling (value.map fun v => (true, v)))
      else none
  | _ =>
    (spellings rules).filterMap fun (spelling, rule) =>
      if spelling.toList = argument.take 2 then
        some (.option rule spelling (some (false, argument.drop 2)))
      else if argument.isPrefixOf spelling.toList then some (.option rule spelling none)
      else none

/-- Reads an argument that is not `--`; nothing if it can be short for several options. -/
def read? (rules : List OptionRule) (argument : String) : Option Reading :=
  let text := argument.toList
  let (name, value) := splitEquals text
  if text.head? ≠ some '-' then some .operand
  else if let some rule := ruleOf? rules argument then some (.option rule argument none)
  else if text.length = 1 then some .operand
  else if let (some rule, some v) := (ruleOf? rules (String.ofList name), value) then
    some (.option rule (String.ofList name) (some (true, v)))
  else
    match candidates rules text with
    | [reading] => some reading
    | _ :: _ :: _ => none
    | [] =>
      if isNegativeNumber text || text.contains ' ' then some .operand else some .unknownOption

/-- An argument with its reading. -/
abbrev Argument := String × Reading

/-- Reads all arguments. -/
def readAll (rules : List OptionRule) : List String → Option (List Argument)
  | [] => some []
  | "--" :: rest => some (("--", .terminator) :: rest.map fun argument => (argument, .operand))
  | argument :: rest => do
    return (argument, ← read? rules argument) :: (← readAll rules rest)

/-! ## Options -/

/-- What the characters joined to an option mean: findings, an argument without use, and an option
that still needs to be looked at by itself. -/
structure Joined where
  findings : List Finding
  extras : List String := []
  last : Option OptionRule := none

/-- Takes the characters joined to an option apart: they are its value, or more options of one
letter. There is no meaning for a value joined to an option that has none. -/
def takeJoined (rules : List OptionRule) (rule : OptionRule) (isLong byEquals : Bool) :
    List Char → Option Joined
  | [] => if rule.takesValue then some { findings := [.value rule.key ""] } else none
  | c :: rest =>
    if rule.takesValue then some { findings := [.value rule.key (String.ofList (c :: rest))] }
    else if isLong || byEquals || c = '-' then none
    else
      match ruleOf? rules (String.ofList ['-', c]) with
      | none =>
        some { findings := [.flag rule.key], extras := [String.ofList ('-' :: c :: rest)] }
      | some next =>
        let more : Option Joined := match rest with
          | [] => some { findings := [], last := some next }
          | '=' :: value => takeJoined rules next false true value
          | d :: value => takeJoined rules next false false (d :: value)
        more.map fun joined => { joined with findings := .flag rule.key :: joined.findings }

/-- An option without joined characters: its value is the next argument, which must be an
operand. -/
def takeAlone (rule : OptionRule) (rest : List Argument) : Option (List Finding × List Argument) :=
  if rule.takesValue then
    match rest with
    | (text, .operand) :: rest => some ([.value rule.key text], rest)
    | _ => none
  else some ([.flag rule.key], rest)

/-- What an option means: findings, arguments without use and the arguments after it. -/
def takeOption (rules : List OptionRule) (rule : OptionRule) (spelling : String)
    (joined : Option (Bool × List Char)) (rest : List Argument) :
    Option (List Finding × List String × List Argument) := do
  match joined with
  | none =>
    let (findings, rest) ← takeAlone rule rest
    return (findings, [], rest)
  | some (byEquals, text) =>
    let isLong := "--".toList.isPrefixOf spelling.toList
    let found ← takeJoined rules rule isLong byEquals text
    match found.last with
    | none => return (found.findings, found.extras, rest)
    | some last =>
      let (findings, rest) ← takeAlone last rest
      return (found.findings ++ findings, found.extras, rest)

/-! ## Operands -/

/-- Whether an argument is read as an option. -/
def isOption (argument : Argument) : Bool :=
  match argument.2 with
  | .option _ _ _ => true
  | .unknownOption => true
  | _ => false

/-- The arguments in the place of one operand, with the marks around it. -/
def operandSlice? (arguments : List Argument) : Option (List String × List Argument) :=
  let isMark (argument : Argument) : Bool := argument.2 == .terminator
  let marks := arguments.takeWhile isMark
  match arguments.drop marks.length with
  | (text, .operand) :: rest =>
    let after := rest.takeWhile isMark
    some (marks.map (·.1) ++ text :: after.map (·.1), rest.drop after.length)
  | _ => none

/-- As many operands as there are, up to `n`. -/
def operandSlices : Nat → List Argument → List (List String) × List Argument
  | 0, arguments => ([], arguments)
  | n + 1, arguments =>
    match operandSlice? arguments with
    | some (slice, rest) =>
      let (slices, rest) := operandSlices n rest
      (slice :: slices, rest)
    | none => ([], arguments)

/-- Takes operands: the findings, the operands that are still missing and the arguments after
them. -/
def takeOperands (operands : Operands) (arguments : List Argument) :
    List Finding × Operands × List Argument :=
  match operands with
  | .count n =>
    let (slices, rest) := operandSlices n arguments
    (slices.map .operand, .count (n - slices.length), rest)
  | .command =>
    let marks := arguments.takeWhile fun argument => argument.2 == .terminator
    match arguments.drop marks.length with
    | (_, .operand) :: _ => ([.command (arguments.map (·.1))], .count 0, [])
    | _ => ([], .command, arguments)

/-! ## All arguments -/

/-- Adds findings before what is found later. -/
def Parsed.after (parsed : Parsed) (findings : List Finding) (extras : List String) : Parsed :=
  { parsed with findings := findings ++ parsed.findings, extras := extras ++ parsed.extras }

/-- Goes through the arguments, operands and options in turn. Operands that are missing at the end
are a mistake. The fuel bounds the turns: two for each argument suffice. -/
def parseFrom (rules : List OptionRule) : Nat → Operands → List Argument → Parsed
  | 0, _, _ => { mistaken := true }
  | fuel + 1, operands, arguments =>
    match arguments with
    | (text, .unknownOption) :: rest => (parseFrom rules fuel operands rest).after [] [text]
    | (_, .option rule spelling joined) :: rest =>
      match takeOption rules rule spelling joined rest with
      | some (findings, extras, rest) => (parseFrom rules fuel operands rest).after findings extras
      | none => { mistaken := true }
    | _ =>
      let (findings, missing, rest) := takeOperands operands arguments
      if rest.any isOption then
        if findings.isEmpty then
          let extras := (rest.takeWhile (!isOption ·)).map (·.1)
          (parseFrom rules fuel missing (rest.dropWhile (!isOption ·))).after [] extras
        else (parseFrom rules fuel missing rest).after findings []
      else
        -- No option is left, so these were the last operands.
        { findings, extras := rest.map (·.1), mistaken := missing != .count 0 }

/-- What is found among arguments. -/
def parse (rules : List OptionRule) (operands : Operands) (arguments : List String) : Parsed :=
  match readAll rules arguments with
  | none => { mistaken := true }
  | some read => parseFrom rules (2 * read.length + 1) operands read

end SqlAssist.Arguments
