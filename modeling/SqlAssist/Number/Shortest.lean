import SqlAssist.Number.Binary64

/-!
# Written doubles

A double is written with the fewest digits that read back as the same double; of several such
decimals it is the nearest one. It is written positionally for exponents from -4 to 15, and with an
exponent of at least two digits outside of that range.
-/
namespace SqlAssist

/-- A decimal `0.d₁d₂… * 10 ^ point`, with the digits `d₁d₂…` as one number of `count` digits. -/
structure Decimal where
  digits : Nat
  count : Nat
  point : Int
  deriving DecidableEq, Repr

namespace Decimal

/-- The exponent `p` with `10 ^ (p - 1) ≤ num / den < 10 ^ p`, for a positive quotient. -/
def pointOf (num den : Nat) : Int :=
  let below (p : Int) : Bool :=
    if 0 ≤ p then num < den * tenTo p.toNat else num * tenTo (-p).toNat < den
  -- Three binary digits make less than one decimal digit, so the search starts at or below the
  -- answer.
  let start : Int := (((num.log2 : Int) - den.log2 - 1) * 30103) / 100000
  if below start then start
  else if below (start + 1) then start + 1
  else if below (start + 2) then start + 2
  else start + 3

/-- The double nearest to `digits * 10 ^ exponent`. -/
def reads (digits : Nat) (exponent : Int) : Nat :=
  if 0 ≤ exponent then Binary64.nearestBits (digits * tenTo exponent.toNat) 1
  else Binary64.nearestBits digits (tenTo (-exponent).toNat)

/-- The decimal of `count` digits nearest to `num / den` that reads back as the double with the
given bits, if there is one. -/
def ofCount? (bits num den : Nat) (point : Int) (count : Nat) : Option Decimal :=
  let exponent := point - count
  let (n, d) := if 0 ≤ exponent then (num, den * tenTo exponent.toNat)
    else (num * tenTo (-exponent).toNat, den)
  let low := n / d
  let nearer := Binary64.roundDiv n d
  let further := if nearer = low then low + 1 else low
  if reads nearer exponent = bits then some ⟨nearer, count, point⟩
  else if reads further exponent = bits then some ⟨further, count, point⟩
  else none

/-- A decimal whose digits have rounded up to a power of ten, with one digit. -/
def normalised (d : Decimal) : Decimal :=
  if d.digits = tenTo d.count then ⟨1, 1, d.point + 1⟩ else d

/-- The shortest decimal that reads back as the double `m * 2 ^ e`, which is positive. -/
def shortest (bits m : Nat) (e : Int) : Decimal :=
  let (num, den) := if 0 ≤ e then (m * twoTo e.toNat, 1) else (m, twoTo (-e).toNat)
  let point := pointOf num den
  let found := (List.range' 1 17).findSome? (ofCount? bits num den point)
  normalised (found.getD ⟨num / den, 17, point⟩)

/-- The digits with leading zeros up to the given length. -/
def padded (length : Nat) (n : Nat) : String :=
  let digits := toString n
  String.ofList (List.replicate (length - digits.length) '0') ++ digits

/-- Writes a decimal: positionally if its exponent is from -4 to 15, else with an exponent. -/
def written (d : Decimal) : String :=
  let digits := (padded d.count d.digits).toList
  let exponent := d.point - 1
  if -4 ≤ exponent ∧ exponent < 16 then
    if d.point ≤ 0 then
      String.ofList (['0', '.'] ++ List.replicate (-d.point).toNat '0' ++ digits)
    else if d.count ≤ d.point then
      String.ofList (digits ++ List.replicate (d.point - d.count).toNat '0' ++ ['.', '0'])
    else
      String.ofList (digits.take d.point.toNat ++ '.' :: digits.drop d.point.toNat)
  else
    let mantissa := match digits with
      | [] => []
      | [c] => [c]
      | c :: rest => c :: '.' :: rest
    let mark := if exponent < 0 then "e-" else "e+"
    String.ofList mantissa ++ mark ++ padded 2 exponent.natAbs

end Decimal

/-- Writes a double. -/
def writtenFloat (x : Float) : String :=
  match Binary64.decode x with
  | .nan => "nan"
  | .infinite negative => if negative then "-inf" else "inf"
  | .finite negative m e =>
    let magnitude := if m = 0 then "0.0"
      else (Decimal.shortest (x.toBits.toNat % twoTo 63) m e).written
    if negative then "-" ++ magnitude else magnitude

end SqlAssist
