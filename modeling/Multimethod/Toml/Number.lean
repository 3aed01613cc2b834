import Multimethod.Toml.Text
import Multimethod.Toml.Value

/-! # Numbers -/

namespace Multimethod.Toml

/-! ## Digits -/

/-- The digits that follow a first one. A single underscore may stand before each. -/
def moreDigits (isDigit : Char → Bool) : Reader (List Char)
  | '_' :: c :: rest => if isDigit c then found [c] (moreDigits isDigit rest) else none
  | '_' :: [] => none
  | c :: rest => if isDigit c then found [c] (moreDigits isDigit rest) else some ([], c :: rest)
  | [] => some ([], [])

def someDigits (isDigit : Char → Bool) : Reader (List Char)
  | c :: rest => if isDigit c then found [c] (moreDigits isDigit rest) else none
  | [] => none

/-- A zero that leads a whole number stands alone. -/
def wholeDigits : Reader (List Char)
  | '0' :: rest => some (['0'], rest)
  | cs => someDigits Char.isDigit cs

/-! ## Whole numbers -/

def integerOf? (n : Int) : Option Value :=
  if -9223372036854775808 ≤ n ∧ n ≤ 9223372036854775807 then some (.integer n) else none

def basedInteger (base : Nat) (cs : List Char) : Option (Value × List Char) := do
  let isDigit (c : Char) := (hexValue? c).any (· < base)
  let (digits, rest) ← someDigits isDigit cs
  let n := digits.foldl (fun n c => base * n + (hexValue? c).getD 0) 0
  let v ← integerOf? n
  return (v, rest)

/-! ## Numbers with a fraction or an exponent -/

def isNegative : List Char → Bool
  | '-' :: _ => true
  | _ => false

def skipSign : List Char → List Char
  | '+' :: rest => rest
  | '-' :: rest => rest
  | cs => cs

def signed (negative : Bool) (n : Nat) : Int := if negative then -n else n

def exponent (cs : List Char) : Option (Int × List Char) :=
  (someDigits Char.isDigit (skipSign cs)).map fun (digits, rest) =>
    (signed (isNegative cs) (Text.ofDigits digits), rest)

def floatOf? (negative : Bool) (digits : List Char) (power : Int) : Option Value :=
  match Binary64.ofDecimal negative digits power with
  | .infinite false => none
  | x => some (.float x)

def afterDigits (negative : Bool) (digits : List Char) : Reader Value
  | '.' :: cs => do
    let (places, rest) ← someDigits Char.isDigit cs
    let (power, rest) ← match rest with
      | 'e' :: rest => exponent rest
      | 'E' :: rest => exponent rest
      | _ => some (0, rest)
    let v ← floatOf? negative (digits ++ places) (power - places.length)
    return (v, rest)
  | 'e' :: cs => withExponent cs
  | 'E' :: cs => withExponent cs
  | cs => (integerOf? (signed negative (Text.ofDigits digits))).map (·, cs)
where
  withExponent (cs : List Char) : Option (Value × List Char) := do
    let (power, rest) ← exponent cs
    let v ← floatOf? negative digits power
    return (v, rest)

def number (cs : List Char) : Option (Value × List Char) :=
  match cs with
  | '0' :: 'x' :: rest => basedInteger 16 rest
  | '0' :: 'o' :: rest => basedInteger 8 rest
  | '0' :: 'b' :: rest => basedInteger 2 rest
  | _ =>
    match skipSign cs with
    | 'i' :: 'n' :: 'f' :: rest => some (.float (.infinite (isNegative cs)), rest)
    | 'n' :: 'a' :: 'n' :: rest => some (.float .nan, rest)
    | unsigned =>
      (wholeDigits unsigned).bind fun (digits, rest) => afterDigits (isNegative cs) digits rest

end Multimethod.Toml
