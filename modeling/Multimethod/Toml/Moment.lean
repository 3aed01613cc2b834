import Multimethod.Toml.Reader
import Multimethod.Toml.Value

/-! # Dates and times -/

namespace Multimethod.Toml

def fixedDigits (count low high : Nat) (cs : List Char) : Option (Nat × List Char) :=
  let digits := cs.take count
  let n := Text.ofDigits digits
  if digits.length = count ∧ digits.all Char.isDigit ∧ low ≤ n ∧ n ≤ high then
    some (n, cs.drop count)
  else none

def mark (c : Char) : List Char → Option (List Char)
  | d :: rest => if d = c then some rest else none
  | [] => none

/-! ## Dates -/

def isLeapYear (year : Nat) : Bool :=
  year % 4 = 0 && (year % 100 ≠ 0 || year % 400 = 0)

def daysIn (year month : Nat) : Nat :=
  match month with
  | 2 => if isLeapYear year then 29 else 28
  | 4 | 6 | 9 | 11 => 30
  | _ => 31

def date (cs : List Char) : Option (Date × List Char) := do
  let (year, cs) ← fixedDigits 4 0 9999 cs
  let cs ← mark '-' cs
  let (month, cs) ← fixedDigits 2 1 12 cs
  let cs ← mark '-' cs
  let (day, cs) ← fixedDigits 2 1 (daysIn year month) cs
  return ({ year, month, day }, cs)

/-! ## Times -/

def secondFraction : List Char → List Char × List Char
  | '.' :: rest =>
    let digits := rest.takeWhile Char.isDigit
    if digits.isEmpty then ([], '.' :: rest) else (digits, rest.dropWhile Char.isDigit)
  | cs => ([], cs)

def timeOfDay (cs : List Char) : Option (TimeOfDay × List Char) := do
  let (hour, cs) ← fixedDigits 2 0 23 cs
  let cs ← mark ':' cs
  let (minute, cs) ← fixedDigits 2 0 59 cs
  let cs ← mark ':' cs
  let (second, cs) ← fixedDigits 2 0 60 cs
  let (fraction, cs) := secondFraction cs
  return ({ hour, minute, second, fraction }, cs)

def clockOffset (cs : List Char) : Option (Nat × List Char) := do
  let (hour, cs) ← fixedDigits 2 0 23 cs
  let cs ← mark ':' cs
  let (minute, cs) ← fixedDigits 2 0 59 cs
  return (60 * hour + minute, cs)

def timeOffset : List Char → Option (Int × List Char)
  | 'Z' :: rest => some (0, rest)
  | 'z' :: rest => some (0, rest)
  | '+' :: rest => (clockOffset rest).map fun (n, rest) => ((n : Int), rest)
  | '-' :: rest => (clockOffset rest).map fun (n, rest) => (-(n : Int), rest)
  | _ => none

/-! ## Both -/

/-- A time directly after a date, behind a letter or a blank. -/
def timeAfterDate : List Char → Option (TimeOfDay × List Char)
  | 'T' :: rest => timeOfDay rest
  | 't' :: rest => timeOfDay rest
  | ' ' :: rest => timeOfDay rest
  | _ => none

def moment (cs : List Char) : Option (Moment × List Char) :=
  match date cs with
  | none => (timeOfDay cs).map fun (time, rest) => (⟨none, some time, none⟩, rest)
  | some (date, rest) =>
    match timeAfterDate rest with
    | none => some (⟨some date, none, none⟩, rest)
    | some (time, rest) =>
      match timeOffset rest with
      | none => some (⟨some date, some time, none⟩, rest)
      | some (offset, rest) => some (⟨some date, some time, some offset⟩, rest)

end Multimethod.Toml
