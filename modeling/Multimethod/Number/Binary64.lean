import Multimethod.Number.Fraction
import Multimethod.Text.Decimal

/-!
# Floating point numbers of 64 bits

A finite number is a mantissa of at most 53 bits times a power of two; the mantissa has all 53 bits
unless the exponent is the lowest. A half is rounded to the even mantissa.
-/

namespace Multimethod

inductive Binary64 where
  | nan
  | infinite (negative : Bool)
  /-- The mantissa times two to the exponent. -/
  | finite (negative : Bool) (mantissa : Nat) (exponent : Int)
deriving DecidableEq

namespace Binary64

/-- The least mantissa of 53 bits. -/
def leastFull : Nat := Nat.pow 2 52

def lowestExponent : Int := -1074

def highestExponent : Int := 971

def zero (negative : Bool) : Binary64 := .finite negative 0 lowestExponent

def exponentOf (a : Fraction) : Int :=
  let e : Int := a.num.log2 - a.den.log2 - 52
  let e := if (a.div (.scaled 1 2 e)).floor < leastFull then e - 1 else e
  max e lowestExponent

def ofFraction (negative : Bool) (a : Fraction) : Binary64 :=
  if a.num = 0 then zero negative
  else
    let e := exponentOf a
    let m := (a.div (.scaled 1 2 e)).round
    let (m, e) := if m = 2 * leastFull then (leastFull, e + 1) else (m, e)
    if e ≤ highestExponent then .finite negative m e else .infinite negative

/-- The number nearest to the digits times a power of ten. Powers far beyond all finite numbers are
not computed. -/
def ofDecimal (negative : Bool) (digits : List Char) (power : Int) : Binary64 :=
  let n := Text.ofDigits digits
  let place := (Text.digits n).length + power
  if n = 0 ∨ place < -400 then zero negative
  else if 400 < place then .infinite negative
  else ofFraction negative (.scaled n 10 power)

end Binary64

end Multimethod
