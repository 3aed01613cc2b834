import Multimethod.Number.Binary64

/-! # Values of a document -/

namespace Multimethod.Toml

structure Date where
  year : Nat
  month : Nat
  day : Nat
deriving DecidableEq

structure TimeOfDay where
  hour : Nat
  minute : Nat
  second : Nat
  fraction : List Char
deriving DecidableEq

/-- A date, a time of day, or both; an offset in minutes only if there are both. -/
structure Moment where
  date : Option Date
  time : Option TimeOfDay
  offset : Option Int
deriving DecidableEq

inductive Value where
  | boolean (value : Bool)
  | integer (value : Int)
  | float (value : Binary64)
  | string (value : String)
  | moment (value : Moment)
  | array (elements : List Value)
  | table (entries : List (String × Value))

abbrev Table := List (String × Value)

end Multimethod.Toml
