/-! # Some relations of specificity -/

namespace Multimethod.Specificity

/-- A multiple is more specific than its divisors; zero divides only itself. -/
def multiple (a b : Int) : Bool := if b = 0 then a = 0 else a % b = 0

def superset (a b : Int) : Bool := BitVec.ofInt 64 a &&& BitVec.ofInt 64 b = BitVec.ofInt 64 b

def continues (a b : String) : Bool := b.toList.isPrefixOf a.toList

def within (a b : Int × Int) : Bool := b.1 ≤ a.1 && a.2 ≤ b.2

def marked (rows : Array String) (a b : Nat) : Bool :=
  (rows[a]?.bind fun row => row.toList[b]?) = some '1'

end Multimethod.Specificity
