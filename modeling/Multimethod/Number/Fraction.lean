/-! # Fractions of natural numbers, by their parts -/

namespace Multimethod

structure Fraction where
  num : Nat
  den : Nat

namespace Fraction

/-- The fraction `n · base ^ e`. -/
def scaled (n base : Nat) (e : Int) : Fraction :=
  if 0 ≤ e then ⟨n * Nat.pow base e.natAbs, 1⟩ else ⟨n, Nat.pow base e.natAbs⟩

def le (a b : Fraction) : Bool := a.num * b.den ≤ b.num * a.den

def div (a b : Fraction) : Fraction := ⟨a.num * b.den, a.den * b.num⟩

def floor (a : Fraction) : Nat := a.num / a.den

def isUpper (a : Fraction) : Bool := a.den ≤ 2 * (a.num % a.den)

/-- The nearest whole number; of two equally near, the even one. -/
def round (a : Fraction) : Nat :=
  let rest := 2 * (a.num % a.den)
  if rest < a.den ∨ (rest = a.den ∧ a.floor % 2 = 0) then a.floor else a.floor + 1

end Fraction

end Multimethod
