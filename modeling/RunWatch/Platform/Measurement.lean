import RunWatch.Json.Codec

/-!
# Measurements

The floating-point numbers that tests and metrics report.  A computation may leave an infinite one behind, or one that
is no number at all.  JSON has no way to write these: they go out as null, and no measurement is read from null.
-/

namespace RunWatch

open Json (Codec)

/-- A floating-point number that need not be finite. -/
inductive Measurement where
  | finite (x : Binary64)
  | infinite (negative : Bool)
  /-- The outcome of a computation that has none, such as zero over zero. -/
  | undefined
  deriving DecidableEq

namespace Measurement

def isFinite : Measurement → Bool
  | finite _ => true
  | infinite _ | undefined => false

def codec : Codec Measurement where
  write
    | finite x => Codec.binary64.write x
    | infinite _ | undefined => .null
  read m t := (Codec.binary64.read m t).map finite

end Measurement

end RunWatch
