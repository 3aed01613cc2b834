import Multimethod.Action

/-!
# A small order of types

Two types side by side, one above both and one below both: the least order with a tie.
-/

namespace Multimethod

inductive Diamond where
  | top
  | left
  | right
  | bottom
deriving DecidableEq

namespace Diamond

def accepts : Diamond → Diamond → Bool
  | top, _ => true
  | _, bottom => true
  | declared, actual => declared = actual

instance : Descriptor Diamond where
  accepts := accepts

instance : LawfulDescriptor Diamond where
  accepts_refl a := by cases a <;> rfl
  accepts_trans {a b c} := by cases a <;> cases b <;> cases c <;> decide

instance : Typed Diamond Diamond where
  typeOf := id

/-! ## Methods -/

def leaf (name : String) (declared : Diamond) : Method Diamond (Body Diamond Diamond Unit String) :=
  ⟨⟨[declared]⟩, .leaf, fun _ => .done name⟩

/-- Puts its name in front of the next answer. -/
def inner (name : String) (declared : Diamond) :
    Method Diamond (Body Diamond Diamond Unit String) :=
  ⟨⟨[declared]⟩, .inner, fun _ => .next fun
    | .ok answer => .done (name ++ answer)
    | .error error => .fail error⟩

/-- Adds a method for the bottom to function `f` and calls it again. -/
def learner (f : Nat) : Method Diamond (Body Diamond Diamond Unit String) :=
  ⟨⟨[top]⟩, .leaf, fun arguments =>
    .register f ⟨[bottom]⟩ .leaf (fun _ => .done "learnt") fun _ =>
      .invoke f arguments fun
        | .ok answer => .done answer
        | .error _ => .done "nothing learnt"⟩

end Diamond

end Multimethod
