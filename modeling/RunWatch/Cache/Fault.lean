import RunWatch.Api.Fault

/-!
# Faults of the caches

The ways in which an effect of a cache or of the stored selection can fail.
-/

namespace RunWatch

/-- An effect that failed. -/
inductive CacheFault where
  /-- A call to the platform failed. -/
  | api (fault : Api.Fault)
  /-- The effect asks for something that cannot be done. -/
  | invalid (reason : String)
  /-- The stored selection could not be read or written. -/
  | storage (reason : String)
  /-- What is stored is not what it should be. -/
  | corrupt (reason : String)
  deriving DecidableEq

namespace CacheFault

/-- A fault in words. -/
def message : CacheFault → String
  | api fault => fault.message
  | invalid reason => "Invalid request: " ++ reason
  | storage reason => "Storage error: " ++ reason
  | corrupt reason => "Serialization error: " ++ reason

/-- A fault in words, followed by its causes. -/
def chain : CacheFault → List String
  | api fault => fault.chain
  | fault => [fault.message]

end CacheFault

end RunWatch
