/-!
# Doubles as exact numbers

A finite double is `m * 2 ^ e` with natural `m`. `Binary64.decode` takes it apart and
`Binary64.nearest` goes back: it is the double nearest to a quotient, with ties to the even
neighbour. Both work in exact arithmetic.
-/
namespace SqlAssist

/-- A power of two. -/
def twoTo (exponent : Nat) : Nat := Nat.pow 2 exponent

/-- A power of ten. -/
def tenTo (exponent : Nat) : Nat := Nat.pow 10 exponent

/-- What a double stands for. -/
inductive Binary64 where
  | nan
  | infinite (negative : Bool)
  | finite (negative : Bool) (mantissa : Nat) (exponent : Int)
  deriving DecidableEq, Repr

namespace Binary64

/-- The exponent of the smallest positive double, `2 ^ minExponent`. -/
def minExponent : Int := -1074

/-- Takes a double apart. -/
def decode (x : Float) : Binary64 :=
  let bits := x.toBits.toNat
  let negative := decide (twoTo 63 ≤ bits)
  let exponent : Nat := bits / twoTo 52 % twoTo 11
  let fraction := bits % twoTo 52
  if exponent = 2047 then if fraction = 0 then .infinite negative else .nan
  else if exponent = 0 then .finite negative fraction minExponent
  else .finite negative (fraction + twoTo 52) ((exponent : Int) - 1075)

/-- The quotient rounded to a natural number, with ties to the even neighbour. -/
def roundDiv (num den : Nat) : Nat :=
  let q := num / den
  let r := num % den
  if 2 * r < den then q
  else if den < 2 * r then q + 1
  else if q % 2 = 0 then q else q + 1

/-- The quotient `num / den` in units of `2 ^ e`, rounded. -/
def scaled (num den : Nat) (e : Int) : Nat :=
  if 0 ≤ e then roundDiv num (den * twoTo e.toNat) else roundDiv (num * twoTo (-e).toNat) den

/-- The greatest `e`, not below the exponent of the smallest double, for which `num / den` has at
least 53 binary digits in units of `2 ^ e`. -/
def unitExponent (num den : Nat) : Int :=
  let guess : Int := num.log2 - den.log2 - 53
  let fits (e : Int) : Bool :=
    if 0 ≤ e then den * twoTo e.toNat * twoTo 52 ≤ num else den * twoTo 52 ≤ num * twoTo (-e).toNat
  let e := if fits (guess + 1) then guess + 1 else guess
  max e minExponent

/-- The bits of the double nearest to `num / den`, without a sign. -/
def nearestBits (num den : Nat) : Nat :=
  if num = 0 then 0
  else
    let e := unitExponent num den
    let m := scaled num den e
    -- A mantissa that rounds up to the next power of two carries into the exponent by itself.
    let bits := if m < twoTo 52 then m else (e + 1074).toNat * twoTo 52 + m
    min bits (2047 * twoTo 52)

/-- The double with the given sign nearest to `num / den`; infinite if that is too large. -/
def nearest (negative : Bool) (num den : Nat) : Float :=
  Float.ofBits (UInt64.ofNat (nearestBits num den + if negative then twoTo 63 else 0))

/-- The double with the given sign nearest to `digits * 10 ^ exponent`. -/
def ofDecimal (negative : Bool) (digits : Nat) (exponent : Int) : Float :=
  -- Far beyond both ends of the range the answer does not depend on the exponent.
  if digits = 0 then nearest negative 0 1
  else
    let size : Int := digits.log2 / 3 + 1
    if 400 < exponent then nearest negative (twoTo 1024) 1
    else if exponent + size < -400 then nearest negative 0 1
    else if 0 ≤ exponent then nearest negative (digits * tenTo exponent.toNat) 1
    else nearest negative digits (tenTo (-exponent).toNat)

/-- The double nearest to a whole number. -/
def ofInt (n : Int) : Float := nearest (decide (n < 0)) n.natAbs 1

/-- The whole number that a double is equal to, if it is one. -/
def toInt? (x : Float) : Option Int :=
  match decode x with
  | .finite negative m e =>
    let magnitude : Option Nat :=
      if 0 ≤ e then some (m * twoTo e.toNat)
      else if m % twoTo (-e).toNat = 0 then some (m / twoTo (-e).toNat) else none
    magnitude.map fun n => if negative then -(n : Int) else n
  | _ => none

/-- A finite double as an exact fraction; zero for the others. -/
def toRat (x : Float) : Rat :=
  match decode x with
  | .finite negative m e =>
    let magnitude : Rat :=
      if 0 ≤ e then ((m * twoTo e.toNat : Nat) : Rat) else mkRat m (twoTo (-e).toNat)
    if negative then -magnitude else magnitude
  | _ => 0

end Binary64

end SqlAssist
