import SqlAssist.Number.Binary64
import SqlAssist.Validation

/-!
# Settings of the editor

The settings that a user can make, with the checks that they pass: how many suggestions are shown,
how long the editor waits before it looks for them, from which length on a text is analysed aside,
and the dialect of SQL.
-/
namespace SqlAssist

/-- The settings of the editor. -/
structure Settings where
  maxSuggestions : Int := 50
  debounceDelay : Float := Binary64.ofDecimal false 15 (-2)
  offloadThreshold : Int := 20000
  dialect : String := "postgres"

namespace Settings

variable (rules : Rules)

/-- Checks a whole number with a least value. -/
def checkAtLeast (least : Int) (value : Value) : Checked Int :=
  (Checked.byRule (rules.int value)).bind fun n =>
    if least ≤ n then .ok n else Checked.fail .tooSmall

/-- Whether a double is zero or more. -/
def isDuration (x : Float) : Bool :=
  match Binary64.decode x with
  | .nan => false
  | .infinite negative => !negative
  | .finite negative mantissa _ => !negative || mantissa == 0

/-- Checks a time in seconds. -/
def checkDuration (value : Value) : Checked Float :=
  (Checked.byRule (rules.float value)).bind fun x =>
    if isDuration x then .ok x else Checked.fail .tooSmall

/-- Checks the name of a dialect. It is kept as it is written. -/
def checkDialect (value : Value) : Checked String :=
  (Checked.byRule (rules.string value)).bind fun name =>
    match rules.dialect name with
    | .accepted => .ok name
    | .refused => Checked.fail .refused
    | .brokenOff => .error .brokenOff

/-- Checks settings; those that are not given keep their usual values. -/
def check : Value → Checked Settings :=
  Checked.table fun entries =>
    let usual : Settings := {}
    let limit :=
      Checked.field entries "max_suggestions" (checkAtLeast rules 1) (.ok usual.maxSuggestions)
    let delay :=
      Checked.field entries "debounce_delay" (checkDuration rules) (.ok usual.debounceDelay)
    let threshold :=
      Checked.field entries "offload_threshold" (checkAtLeast rules 0) (.ok usual.offloadThreshold)
    let dialect := Checked.field entries "dialect" (checkDialect rules) (.ok usual.dialect)
    (Checked.both limit (Checked.both delay (Checked.both threshold dialect))).map
      fun (limit, delay, threshold, dialect) => ⟨limit, delay, threshold, dialect⟩

end Settings

end SqlAssist
