import Multimethod.Number.Shortest

/-! # What a function counts -/

namespace Multimethod

structure Stats where
  invocations : Nat := 0
  cacheHits : Nat := 0
  resolutions : Nat := 0
  registrations : Nat := 0
  invalidations : Nat := 0
deriving DecidableEq

namespace Stats

/-- The share of invocations answered from the cache; zero before the first one. -/
def hitRate (s : Stats) : Binary64 :=
  if s.invocations = 0 then .zero false else .ofFraction false ⟨s.cacheHits, s.invocations⟩

def hitRateText (s : Stats) : String := s.hitRate.fixed 6

end Stats

end Multimethod
