import Multimethod.Descriptor
import Multimethod.Text.Sequence

/-!
# Tags of declared types

The serial number tells a tag apart from every other one. A tag carries the numbers of all types above
it, so that the subtype test needs no look at its hierarchy.
-/

namespace Multimethod

/-- What one tag keeps of another: enough to recognise it and to print it. -/
structure TagRef where
  serial : Nat
  name : String
deriving DecidableEq

structure Tag extends TagRef where
  supertypes : List TagRef
  /-- The serial numbers of all types above this one. -/
  above : List Nat
deriving DecidableEq

namespace Tag

def ofSupertypes (serial : Nat) (name : String) (supers : List Tag) : Tag where
  serial
  name
  supertypes := supers.map (·.toTagRef)
  above := (supers.flatMap fun s => s.serial :: s.above).eraseDups

/-- `a` is `b` or stands below it. -/
def isSubtypeOf (a b : Tag) : Bool := a.serial = b.serial || a.above.contains b.serial

instance : Descriptor Tag where
  accepts declared actual := actual.isSubtypeOf declared

instance : ToString Tag where
  toString t := t.name

theorem isSubtypeOf_refl (a : Tag) : a.isSubtypeOf a = true := by simp [isSubtypeOf]

end Tag

structure Tagged (V : Type) where
  tag : Tag
  value : V
deriving DecidableEq

namespace Tagged

variable {V : Type}

instance : Typed (Tagged V) Tag where
  typeOf := Tagged.tag

instance [ToString V] : ToString (Tagged V) where
  toString t :=
    "Tagged " ++ Text.braced ["tag: " ++ t.tag.name, "value: " ++ toString t.value]

end Tagged

end Multimethod
