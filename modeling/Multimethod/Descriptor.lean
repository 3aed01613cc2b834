/-!
# Runtime types

Dispatch looks at types alone: may a value of the one stand where the other is expected?
-/

namespace Multimethod

/-- `accepts declared actual`: a value of type `actual` may stand where `declared` is expected. -/
class Descriptor (T : Type) where
  accepts : T → T → Bool

/-- The promise under which dispatch picks the most specific method. -/
class LawfulDescriptor (T : Type) [Descriptor T] : Prop where
  accepts_refl (a : T) : Descriptor.accepts a a = true
  accepts_trans {a b c : T} : Descriptor.accepts a b = true → Descriptor.accepts b c = true →
    Descriptor.accepts a c = true

class Typed (A : Type) (T : outParam Type) where
  typeOf : A → T

end Multimethod
