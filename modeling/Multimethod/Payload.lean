import Multimethod.Hierarchy.Tag
import Multimethod.Text.Decimal
import Multimethod.Text.Quoted
import Multimethod.Text.Sequence

/-! # Payloads -/

namespace Multimethod

inductive Payload where
  | null
  | boolean (value : Bool)
  | integer (value : Int)
  | text (value : String)
  | list (items : List Payload)

namespace Payload

mutual

def plain : Payload → String
  | null => "null"
  | boolean value => toString value
  | integer value => Text.decimalInt value
  | text value => value
  | list items => "[" ++ ",".intercalate (plainAll items) ++ "]"

def plainAll : List Payload → List String
  | [] => []
  | item :: rest => item.plain :: plainAll rest

end

mutual

def written : Payload → String
  | null => "()"
  | boolean value => toString value
  | integer value => Text.decimalInt value
  | text value => Text.quoted value
  | list items => Text.bracketed (writtenAll items)

def writtenAll : List Payload → List String
  | [] => []
  | item :: rest => item.written :: writtenAll rest

end

mutual

def equal : Payload → Payload → Bool
  | null, null => true
  | boolean a, boolean b => a = b
  | integer a, integer b => a = b
  | text a, text b => a = b
  | list as, list bs => equalAll as bs
  | _, _ => false

def equalAll : List Payload → List Payload → Bool
  | [], [] => true
  | a :: as, b :: bs => a.equal b && equalAll as bs
  | _, _ => false

end

instance : ToString Payload where
  toString := written

end Payload

abbrev Argument := Tagged Payload

def Tagged.equal (a b : Argument) : Bool := a.tag = b.tag && a.value.equal b.value

end Multimethod
