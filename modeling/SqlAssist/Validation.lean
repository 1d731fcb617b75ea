import SqlAssist.Data.Value

/-!
# Checked values

Data from outside is checked before it is used. A check gives the value in its own type, or all the
problems that it found, each with the path to the place of the problem. What a number or a text is
taken from, and which dialects of SQL there are, is for the `Rules` to say.
-/
namespace SqlAssist

/-- What can be wrong with a value. -/
inductive Fault where
  | missing
  | notTable
  | notList
  | notString
  | notInteger
  | unreadableInteger
  | integerSize
  | fractional
  | notFinite
  | notNumber
  | unreadableNumber
  | tooSmall
  | refused
  deriving DecidableEq, Repr

/-- The written name of a fault. -/
def Fault.name : Fault → String
  | .missing => "missing"
  | .notTable => "model_type"
  | .notList => "tuple_type"
  | .notString => "string_type"
  | .notInteger => "int_type"
  | .unreadableInteger => "int_parsing"
  | .integerSize => "int_parsing_size"
  | .fractional => "int_from_float"
  | .notFinite => "finite_number"
  | .notNumber => "float_type"
  | .unreadableNumber => "float_parsing"
  | .tooSmall => "greater_than_equal"
  | .refused => "value_error"

/-- One step into a value. -/
inductive PathStep where
  | key (name : String)
  | index (n : Nat)
  deriving DecidableEq, Repr

/-- A fault and its place. -/
structure Problem where
  fault : Fault
  path : List PathStep
  deriving DecidableEq, Repr

/-! ## Rules -/

/-- What a rule says of a name. -/
inductive Verdict where
  | accepted
  | refused
  /-- The rule broke off before it came to an end. -/
  | brokenOff
  deriving DecidableEq, Repr

/-- The rules that checks rest on and that are not their own: how a number or a text is taken from a
value, and which dialects of SQL there are. -/
structure Rules where
  int : Value → Except Fault Int
  float : Value → Except Fault Float
  string : Value → Except Fault String
  dialect : String → Verdict

/-! ## Checks -/

/-- Why a check gives no value. -/
inductive Rejection where
  | problems (found : List Problem)
  /-- A rule broke off, so that no problems were listed. -/
  | brokenOff
  deriving DecidableEq, Repr

namespace Rejection

/-- The rejection of a part, seen from the whole. -/
def within (step : PathStep) : Rejection → Rejection
  | .problems found => .problems (found.map fun p => { p with path := step :: p.path })
  | .brokenOff => .brokenOff

/-- Two rejections as one: a rule that breaks off takes all problems with it. -/
def append : Rejection → Rejection → Rejection
  | .problems found, .problems more => .problems (found ++ more)
  | _, _ => .brokenOff

end Rejection

/-- A checked value, or why there is none. -/
abbrev Checked (α : Type) := Except Rejection α

namespace Checked

variable {α β : Type}

/-- A single problem of the value itself. -/
def fail (fault : Fault) : Checked α := .error (.problems [⟨fault, []⟩])

/-- What a rule takes from a value. -/
def byRule : Except Fault α → Checked α
  | .ok a => .ok a
  | .error fault => fail fault

/-- The problems of a part, seen from the whole. -/
def within (step : PathStep) : Checked α → Checked α
  | .ok a => .ok a
  | .error rejection => .error (rejection.within step)

/-- Two checks with the problems of both. -/
def both : Checked α → Checked β → Checked (α × β)
  | .ok a, .ok b => .ok (a, b)
  | .ok _, .error rejection => .error rejection
  | .error rejection, .ok _ => .error rejection
  | .error rejection, .error more => .error (rejection.append more)

/-- Checks each item of a list, and gives the problems of all of them. -/
def items (check : Value → Checked α) (first : Nat) : List Value → Checked (List α)
  | [] => .ok []
  | item :: rest =>
    (both (within (.index first) (check item)) (items check (first + 1) rest)).map fun (a, as) =>
      a :: as

/-- Checks the value under a key, or takes the given value if there is none. -/
def field (entries : List (String × Value)) (key : String) (check : Value → Checked α)
    (absent : Checked α) : Checked α :=
  within (.key key) (match Assoc.get? key entries with
    | some value => check value
    | none => absent)

/-- Checks the entries of a table. -/
def table (check : List (String × Value) → Checked α) (value : Value) : Checked α :=
  match value with
  | .table entries => check entries
  | _ => fail .notTable

/-- Checks that a value is a list, and its items. -/
def list (check : Value → Checked α) (value : Value) : Checked (List α) :=
  match value with
  | .list values => items check 0 values
  | _ => fail .notList

end Checked

end SqlAssist
