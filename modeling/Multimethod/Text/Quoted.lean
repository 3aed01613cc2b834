import Multimethod.Text.Unprintable

/-! # Quoted text -/

namespace Multimethod.Text

def hexDigits (n : Nat) : String := String.ofList (Nat.toDigits 16 n)

def numericEscape (c : Char) : String := "\\u\x7b" ++ hexDigits c.toNat ++ "\x7d"

def quotedChar (c : Char) : String :=
  match c with
  | '"' => "\\\""
  | '\\' => "\\\\"
  | '\n' => "\\n"
  | '\r' => "\\r"
  | '\t' => "\\t"
  | '\x00' => "\\0"
  | _ =>
    if ' ' ≤ c ∧ c ≤ '~' then c.toString
    else if isUnprintable c then numericEscape c
    else c.toString

def quoted (s : String) : String := "\"" ++ String.join (s.toList.map quotedChar) ++ "\""

end Multimethod.Text
