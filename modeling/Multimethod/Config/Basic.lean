import Multimethod.Text.Decimal
import Multimethod.Text.Sequence

/-! # The configuration of a function -/

namespace Multimethod

structure CacheConfig where
  enabled : Bool := true
  initialCapacity : Nat := 16
deriving DecidableEq

structure Config where
  cache : CacheConfig := {}
deriving DecidableEq

namespace CacheConfig

def description (c : CacheConfig) : String :=
  "CacheConfig " ++ Text.braced
    ["enabled: " ++ toString c.enabled, "initial_capacity: " ++ Text.decimal c.initialCapacity]

end CacheConfig

namespace Config

def withoutCache (c : Config) : Config := { c with cache := { c.cache with enabled := false } }

def isDefault (c : Config) : Bool := c = {}

def description (c : Config) : String :=
  "DispatchConfig " ++ Text.braced ["cache: " ++ c.cache.description]

def toToml (c : Config) : String :=
  "[cache]\nenabled = " ++ toString c.cache.enabled ++ "\ninitial_capacity = " ++
    Text.decimal c.cache.initialCapacity ++ "\n"

end Config

end Multimethod
