import Multimethod.Number.Binary64

/-!
# The fewest digits that identify a floating point number

Of the decimals that round to the number, those with the fewest digits, and of these the nearest; of two
equally near, the larger.
-/

namespace Multimethod

/-- Digits behind a decimal point that stands `point` places to the right of the first one. -/
structure Decimal where
  digits : List Char
  point : Int
deriving DecidableEq

namespace Decimal

def positional (d : Decimal) : String :=
  let before := d.point.toNat
  let padded := d.digits ++ List.replicate (before - d.digits.length) '0'
  let whole := if before = 0 then ['0'] else padded.take before
  let rest := List.replicate (-d.point).toNat '0' ++ padded.drop before
  String.ofList (whole ++ '.' :: if rest.isEmpty then ['0'] else rest)

end Decimal

namespace Binary64

def decimalPlace (a : Fraction) : Int :=
  if a.den ≤ a.num then (Text.digits a.floor).length
  else
    let places := (Text.digits (a.den / a.num)).length
    if a.num * Nat.pow 10 (places - 1) = a.den then 2 - places else 1 - places

/-- The decimal with `count` digits that is nearest to the number among those between `low` and
`high`, the ends included if `closed`. -/
def withDigits (value low high : Fraction) (closed : Bool) (count : Nat) : Option Decimal :=
  let power := decimalPlace value - count
  let steps := value.div (.scaled 1 10 power)
  let fits (n : Nat) : Bool :=
    let a := Fraction.scaled n 10 power
    if closed then low.le a && a.le high else !a.le low && !high.le a
  let decimal (n : Nat) : Decimal :=
    let digits := Text.digits n
    { digits := (digits.reverse.dropWhile (· = '0')).reverse, point := digits.length + power }
  let lower := fits steps.floor
  let upper := fits (steps.floor + 1)
  if upper && (steps.isUpper || !lower) then some (decimal (steps.floor + 1))
  else if lower then some (decimal steps.floor)
  else none

/-- Seventeen digits always suffice. -/
def shortest (mantissa : Nat) (exponent : Int) : Decimal :=
  let below := if mantissa = leastFull ∧ lowestExponent < exponent then 1 else 2
  let quarters (n : Nat) := Fraction.scaled n 2 (exponent - 2)
  let value := quarters (4 * mantissa)
  let found := (List.range 17).findSome? fun i =>
    withDigits value (quarters (4 * mantissa - below)) (quarters (4 * mantissa + 2))
      (mantissa % 2 = 0) (i + 1)
  found.getD ⟨[], 0⟩

def text : Binary64 → String
  | nan => "NaN"
  | infinite negative => if negative then "-inf" else "inf"
  | finite negative mantissa exponent =>
    let d := if mantissa = 0 then ⟨[], 0⟩ else shortest mantissa exponent
    (if negative then "-" else "") ++ d.positional

def fixed (places : Nat) : Binary64 → String
  | finite _ mantissa exponent =>
    let a := Fraction.scaled mantissa 2 exponent
    let n := (Fraction.mk (a.num * Nat.pow 10 places) a.den).round
    let digits := Text.digits n
    let padded := List.replicate (places + 1 - digits.length) '0' ++ digits
    let (whole, rest) := padded.splitAt (padded.length - places)
    String.ofList (whole ++ '.' :: rest)
  | other => other.text

end Binary64

end Multimethod
