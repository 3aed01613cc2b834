import Multimethod.Descriptor
import Multimethod.Text.Decimal
import Multimethod.Text.Sequence

/-! # Exact types -/

namespace Multimethod

inductive IntegerType where
  | i8
  | i32
  | i64
  | u8
  | u64
deriving DecidableEq

inductive ExactType where
  | bool
  | integer (type : IntegerType)
  | char
  | string
  | unit
  | bytes
deriving DecidableEq

inductive ExactValue where
  | bool (value : Bool)
  | integer (type : IntegerType) (value : Int)
  | char (value : Char)
  | string (value : String)
  | unit
  | bytes (value : List UInt8)
deriving DecidableEq

namespace ExactType

def all : List ExactType :=
  [.bool, .integer .i8, .integer .i32, .integer .i64, .integer .u8, .integer .u64, .char, .string,
    .unit, .bytes]

def name : ExactType → String
  | bool => "bool"
  | integer .i8 => "i8"
  | integer .i32 => "i32"
  | integer .i64 => "i64"
  | integer .u8 => "u8"
  | integer .u64 => "u64"
  | char => "char"
  | string => "string"
  | unit => "unit"
  | bytes => "bytes"

def ofName? (name : String) : Option ExactType := all.find? (·.name = name)

instance : Descriptor ExactType where
  accepts declared actual := declared = actual

instance : LawfulDescriptor ExactType where
  accepts_refl a := by simp [Descriptor.accepts]
  accepts_trans hab hbc := by simp_all [Descriptor.accepts]

instance : ToString ExactType where
  toString := name

end ExactType

namespace ExactValue

def type : ExactValue → ExactType
  | bool _ => .bool
  | integer type _ => .integer type
  | char _ => .char
  | string _ => .string
  | unit => .unit
  | bytes _ => .bytes

def text : ExactValue → String
  | bool value => toString value
  | integer _ value => Text.decimalInt value
  | char value => value.toString
  | string value => value
  | unit => "()"
  | bytes value => Text.bracketed (value.map fun b => Text.decimal b.toNat)

instance : Typed ExactValue ExactType where
  typeOf := type

/-- In messages a value shows nothing of itself. -/
instance : ToString ExactValue where
  toString _ := "Any \x7b .. \x7d"

end ExactValue

end Multimethod
