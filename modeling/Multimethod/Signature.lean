import Multimethod.Descriptor
import Multimethod.Text.Sequence

/-!
# Signatures

One signature accepts another position by position, and is the more specific the less it accepts.
-/

namespace Multimethod

structure Signature (T : Type) where
  types : List T
deriving DecidableEq

namespace Signature

variable {T : Type} [Descriptor T]

/-- Signatures of different lengths accept nothing of each other. -/
def acceptsTypes : List T → List T → Bool
  | [], [] => true
  | declared :: rest, actual :: others =>
    Descriptor.accepts declared actual && acceptsTypes rest others
  | _, _ => false

def accepts (declared concrete : Signature T) : Bool := acceptsTypes declared.types concrete.types

/-- `a` is at least as specific as `b`. -/
def implies (a b : Signature T) : Bool := b.accepts a

def strictlyImplies (a b : Signature T) : Bool := a.implies b && !b.implies a

omit [Descriptor T] in
def of {A : Type} [Typed A T] (arguments : List A) : Signature T :=
  ⟨arguments.map Typed.typeOf⟩

omit [Descriptor T] in
def arity (s : Signature T) : Nat := s.types.length

instance [ToString T] : ToString (Signature T) where
  toString s := Text.parenthesised (s.types.map toString)

/-! ## What acceptance inherits from the types -/

theorem acceptsTypes_refl [LawfulDescriptor T] (types : List T) :
    acceptsTypes types types = true := by
  induction types with
  | nil => rfl
  | cons t rest ih => simp [acceptsTypes, LawfulDescriptor.accepts_refl, ih]

theorem acceptsTypes_trans [LawfulDescriptor T] {as bs cs : List T}
    (hab : acceptsTypes as bs = true) (hbc : acceptsTypes bs cs = true) :
    acceptsTypes as cs = true := by
  induction as generalizing bs cs with
  | nil =>
    cases bs with
    | nil => exact hbc
    | cons => simp [acceptsTypes] at hab
  | cons a as ih =>
    cases bs with
    | nil => simp [acceptsTypes] at hab
    | cons b bs =>
      cases cs with
      | nil => simp [acceptsTypes] at hbc
      | cons c cs =>
        simp only [acceptsTypes, Bool.and_eq_true] at hab hbc ⊢
        exact ⟨LawfulDescriptor.accepts_trans hab.1 hbc.1, ih hab.2 hbc.2⟩

theorem length_eq_of_acceptsTypes {as bs : List T} (h : acceptsTypes as bs = true) :
    as.length = bs.length := by
  induction as generalizing bs with
  | nil => cases bs <;> simp_all [acceptsTypes]
  | cons a as ih =>
    cases bs with
    | nil => simp [acceptsTypes] at h
    | cons b bs =>
      simp only [acceptsTypes, Bool.and_eq_true] at h
      simp [ih h.2]

theorem implies_refl [LawfulDescriptor T] (s : Signature T) : s.implies s = true :=
  acceptsTypes_refl s.types

theorem implies_trans [LawfulDescriptor T] {a b c : Signature T} (hab : a.implies b = true)
    (hbc : b.implies c = true) : a.implies c = true :=
  acceptsTypes_trans hbc hab

end Signature

end Multimethod
