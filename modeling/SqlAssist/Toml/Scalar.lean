import SqlAssist.Data.Value
import SqlAssist.Number.Entry
import SqlAssist.Toml.Text

/-!
# Dates, times and numbers in TOML

Each reader gives nothing if the text does not start with what it reads, so that the next reader can
try.
-/
namespace SqlAssist.Toml

/-! ## Dates and times -/

/-- A number of exactly `count` digits within bounds. -/
def fixed? (count low high : Nat) (text : List Char) : Option (Nat × List Char) :=
  let digits := text.take count
  let n := Text.digitsValue digits
  if digits.length = count ∧ digits.all Char.isDigit ∧ low ≤ n ∧ n ≤ high then
    some (n, text.drop count)
  else none

/-- The given character. -/
def mark? (c : Char) : List Char → Option (List Char)
  | first :: rest => if first = c then some rest else none
  | [] => none

/-- The fraction of a second in millionths; digits after the sixth are dropped. -/
def fraction (text : List Char) : Nat × List Char :=
  match text with
  | '.' :: rest =>
    let digits := rest.takeWhile Char.isDigit
    if digits.isEmpty then (0, text)
    else
      let kept := digits.take 6
      (Text.digitsValue kept * tenTo (6 - kept.length), rest.drop digits.length)
  | _ => (0, text)

/-- A time of day. -/
def time? (text : List Char) : Option (TimeOfDay × List Char) := do
  let (hour, rest) ← fixed? 2 0 23 text
  let (minute, rest) ← fixed? 2 0 59 (← mark? ':' rest)
  let (second, rest) ← fixed? 2 0 59 (← mark? ':' rest)
  let (micro, rest) := fraction rest
  return (⟨hour, minute, second, micro⟩, rest)

/-- The minutes that hours and minutes amount to. -/
def hoursAndMinutes? (text : List Char) : Option (Int × List Char) := do
  let (hours, rest) ← fixed? 2 0 23 text
  let (minutes, rest) ← fixed? 2 0 59 (← mark? ':' rest)
  return (60 * hours + minutes, rest)

/-- The distance from universal time in minutes. -/
def offset (text : List Char) : Option Int × List Char :=
  let signed (sign : Int) (found : Int × List Char) : Option Int × List Char :=
    (some (sign * found.1), found.2)
  match text with
  | c :: rest =>
    if c = 'Z' ∨ c = 'z' then (some 0, rest)
    else if c = '+' then ((hoursAndMinutes? rest).map (signed 1)).getD (none, text)
    else if c = '-' then ((hoursAndMinutes? rest).map (signed (-1))).getD (none, text)
    else (none, text)
  | [] => (none, [])

/-- A date that may be no day of the calendar. -/
def date? (text : List Char) : Option (Date × List Char) := do
  let (year, rest) ← fixed? 4 0 9999 text
  let (month, rest) ← fixed? 2 1 12 (← mark? '-' rest)
  let (day, rest) ← fixed? 2 1 31 (← mark? '-' rest)
  return (⟨year, month, day⟩, rest)

/-- The time of day after a date. -/
def timeAfterDate? : List Char → Option (TimeOfDay × List Char)
  | c :: rest => if c = 'T' ∨ c = 't' ∨ c = ' ' then time? rest else none
  | [] => none

/-- A date, or a date with a time of day. -/
def dateTime? (text : List Char) : Option (Read Moment) :=
  (date? text).map fun (date, rest) =>
    if !date.isValid then .error .malformed
    else
      match timeAfterDate? rest with
      | none => .ok (.day date, rest)
      | some (time, rest) =>
        let (offset, rest) := offset rest
        .ok (.both date time offset, rest)

/-! ## Numbers -/

/-- The digits at the start of a text, with single underscores between them. -/
def digitRun (isDigit : Char → Bool) : List Char → List Char × List Char
  | '_' :: c :: rest =>
    if isDigit c then
      let (digits, after) := digitRun isDigit rest
      (c :: digits, after)
    else ([], '_' :: c :: rest)
  | c :: rest =>
    if isDigit c then
      let (digits, after) := digitRun isDigit rest
      (c :: digits, after)
    else ([], c :: rest)
  | [] => ([], [])

/-- One digit or more; an underscore does not start them. -/
def digits? (isDigit : Char → Bool) (text : List Char) : Option (List Char × List Char) :=
  match text with
  | c :: rest =>
    if isDigit c then
      let (more, after) := digitRun isDigit rest
      some (c :: more, after)
    else none
  | [] => none

/-- A whole number in base 16, 8 or 2. -/
def baseNumber? (text : List Char) : Option (Nat × List Char) :=
  match text with
  | '0' :: 'x' :: rest => (digits? isHex rest).map fun (ds, after) => (baseValue 16 ds, after)
  | '0' :: 'o' :: rest =>
    (digits? (fun c => '0' ≤ c && c ≤ '7') rest).map fun (ds, after) => (baseValue 8 ds, after)
  | '0' :: 'b' :: rest =>
    (digits? (fun c => c == '0' || c == '1') rest).map fun (ds, after) => (baseValue 2 ds, after)
  | _ => none

/-- The digits before the point: a zero alone, or digits that no zero leads. -/
def wholePart? (text : List Char) : Option (List Char × List Char) :=
  match text with
  | '0' :: rest => some (['0'], rest)
  | _ => digits? Char.isDigit text

/-- The digits after the point, if there are any. -/
def fractionPart? (text : List Char) : Option (List Char × List Char) :=
  (mark? '.' text).bind (digits? Char.isDigit)

/-- The exponent, if there is one. -/
def exponentPart? (text : List Char) : Option (Int × List Char) :=
  match text with
  | c :: rest =>
    if c = 'e' ∨ c = 'E' then
      let (negative, rest) := match rest with
        | '-' :: rest => (true, rest)
        | '+' :: rest => (false, rest)
        | rest => (false, rest)
      (digits? Char.isDigit rest).map fun (ds, after) =>
        let n : Int := Text.digitsValue ds
        (if negative then -n else n, after)
    else none
  | [] => none

/-- The sign of a number: whether it is negative, and the text after it. -/
def signPart : List Char → Bool × List Char
  | '-' :: rest => (true, rest)
  | '+' :: rest => (false, rest)
  | rest => (false, rest)

/-- A decimal number: whole unless it has a fraction or an exponent. -/
def decimal? (text : List Char) : Option (Read Value) :=
  let (negative, rest) := signPart text
  (wholePart? rest).map fun (whole, rest) =>
    let found := fractionPart? rest
    let (fraction, rest) := found.getD ([], rest)
    match exponentPart? rest with
    | some (exponent, rest) =>
      .ok (.float (Binary64.ofDecimal negative (Text.digitsValue (whole ++ fraction))
        (exponent - fraction.length)), rest)
    | none =>
      if found.isSome then
        .ok (.float (Binary64.ofDecimal negative (Text.digitsValue (whole ++ fraction))
          (-(fraction.length : Int))), rest)
      else if Text.maxDigits < whole.length then .error .tooManyDigits
      else
        let n : Int := Text.digitsValue whole
        .ok (.int (if negative then -n else n), rest)

/-- A number that is not finite. -/
def special? (text : List Char) : Option (Value × List Char) :=
  let (negative, rest) := signPart text
  let word := rest.take 3
  if word = "inf".toList ∨ word = "nan".toList then
    (Entry.special? negative word).map fun x => (.float x, rest.drop 3)
  else none

/-- A date, a time or a number. -/
def readScalar (text : List Char) : Read Value :=
  match dateTime? text with
  | some read => read.map fun (moment, rest) => (.moment moment, rest)
  | none =>
    match time? text with
    | some (time, rest) => .ok (.moment (.clock time), rest)
    | none =>
      match baseNumber? text with
      | some (n, rest) => .ok (.int n, rest)
      | none =>
        match decimal? text with
        | some read => read
        | none =>
          match special? text with
          | some found => .ok found
          | none => .error .malformed

end SqlAssist.Toml
