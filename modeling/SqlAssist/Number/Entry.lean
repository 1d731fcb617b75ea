import SqlAssist.Number.Binary64
import SqlAssist.Text.Digit

/-!
# Numbers as texts of a form

A setting that is a number can also be given as a text. `Entry.int` and `Entry.float?` read such a
text: blanks may stand around it and single underscores between its digits.
-/
namespace SqlAssist

namespace Entry

/-- The blanks that may stand around a number. -/
def isBlank (c : Char) : Bool :=
  let n := c.toNat
  (9 ≤ n && n ≤ 13) || n == 0x20 || n == 0x85 || n == 0xA0 || n == 0x1680 ||
    (0x2000 ≤ n && n ≤ 0x200A) || n == 0x2028 || n == 0x2029 || n == 0x202F || n == 0x205F ||
    n == 0x3000

/-- A text without the blanks around it. -/
def trim (text : List Char) : List Char :=
  ((text.dropWhile isBlank).reverse.dropWhile isBlank).reverse

/-- Whether two underscores stand side by side. -/
def hasDoubleUnderscore : List Char → Bool
  | '_' :: '_' :: _ => true
  | _ :: rest => hasDoubleUnderscore rest
  | [] => false

/-- A text without its underscores, if each stands by itself between other characters. -/
def withoutUnderscores? (text : List Char) : Option (List Char) :=
  if text.head? = some '_' ∨ text.getLast? = some '_' ∨ hasDoubleUnderscore text then none
  else some (text.filter (· != '_'))

/-- A text without the zeros that lead its number; nothing if no digit starts it. After such zeros a
minus sign may stand too. Of a run of zeros and underscores alone the last character stays, and so
it does before a point. -/
def withoutLeadingZeros? (text : List Char) : Option (List Char) :=
  match text with
  | '0' :: rest =>
    let zeros := rest.takeWhile fun c => c == '0' || c == '_'
    match rest.drop zeros.length with
    | [] => some (('0' :: rest).drop zeros.length)
    | '.' :: fraction => some ((('0' :: zeros).drop zeros.length) ++ '.' :: fraction)
    | c :: more => if c.isDigit || c == '-' then some (c :: more) else none
  | c :: rest => if c.isDigit then some (c :: rest) else none
  | [] => none

/-- A text without a fraction of one zero or more. -/
def withoutZeroFraction (text : List Char) : List Char :=
  let whole := text.takeWhile (· != '.')
  match text.drop whole.length with
  | '.' :: fraction => if !fraction.isEmpty && fraction.all (· == '0') then whole else text
  | _ => text

/-- Why a text is no whole number. -/
inductive IntError where
  | unreadable
  | tooManyDigits
  deriving DecidableEq, Repr

/-- A whole number in plain digits: a minus sign or none, and no zero before other digits. The sign
counts as a digit when there are too many of them, and then it does not matter what follows. -/
def plainInt (text : List Char) : Except IntError Int :=
  let (negative, body) := match text with
    | '-' :: rest => (true, rest)
    | rest => (false, rest)
  let digits := body.takeWhile Char.isDigit
  let signed := if negative then digits.length + 1 else digits.length
  if digits.head? = some '0' && 1 < digits.length then .error .unreadable
  else if Text.maxDigits < signed then .error .tooManyDigits
  else if digits.isEmpty || digits.length < body.length then .error .unreadable
  else
    let n : Int := Text.digitsValue digits
    .ok (if negative then -n else n)

/-- A number without what its plain form does not have: blanks around it, a plus sign, leading
zeros, a fraction of zeros and underscores. -/
def cleaned? (text : List Char) : Option (List Char) :=
  let number := match trim text with
    | '-' :: rest => (withoutLeadingZeros? rest).map ('-' :: ·)
    | '+' :: rest => withoutLeadingZeros? rest
    | rest => withoutLeadingZeros? rest
  number.map fun number =>
    let whole := withoutZeroFraction number
    (withoutUnderscores? whole).getD whole

/-- The whole number that a text stands for. Only a text that is plain as it stands can be refused
for too many digits; any other is unreadable then. -/
def int (text : List Char) : Except IntError Int :=
  match plainInt text with
  | .ok n => .ok n
  | .error .tooManyDigits => .error .tooManyDigits
  | .error .unreadable =>
    match (cleaned? text).map plainInt with
    | some (.ok n) => .ok n
    | _ => .error .unreadable

/-- The words for numbers that are not finite, in lower case. -/
def special? (negative : Bool) (word : List Char) : Option Float :=
  let sign : Nat := if negative then twoTo 63 else 0
  if word = "inf".toList ∨ word = "infinity".toList then
    some (Float.ofBits (UInt64.ofNat (2047 * twoTo 52 + sign)))
  else if word = "nan".toList then some (Float.ofBits (UInt64.ofNat (4095 * twoTo 51 + sign)))
  else none

/-- The exponent at the end of a number. -/
def exponent? : List Char → Option Int
  | [] => some 0
  | mark :: rest =>
    if mark != 'e' && mark != 'E' then none
    else
      let (negative, digits) := match rest with
        | '-' :: digits => (true, digits)
        | '+' :: digits => (false, digits)
        | digits => (false, digits)
      if digits.isEmpty || !digits.all Char.isDigit then none
      else
        let n : Int := Text.digitsValue digits
        some (if negative then -n else n)

/-- The number in plain digits that a text stands for. -/
def plainFloat? (text : List Char) : Option Float :=
  let (negative, body) := match text with
    | '-' :: rest => (true, rest)
    | '+' :: rest => (false, rest)
    | rest => (false, rest)
  match special? negative (body.map Char.toLower) with
  | some x => some x
  | none =>
    let whole := body.takeWhile Char.isDigit
    let (fraction, rest) := match body.drop whole.length with
      | '.' :: more => (more.takeWhile Char.isDigit, more.dropWhile Char.isDigit)
      | more => ([], more)
    if whole.isEmpty && fraction.isEmpty then none
    else (exponent? rest).map fun e =>
      Binary64.ofDecimal negative (Text.digitsValue (whole ++ fraction)) (e - fraction.length)

/-- The number that a text stands for: with blanks around it or with underscores inside of it, but
not with both. -/
def float? (text : List Char) : Option Float :=
  match plainFloat? (trim text) with
  | some x => some x
  | none =>
    if text.contains '_' then (withoutUnderscores? text).bind plainFloat? else none

end Entry

end SqlAssist
