import RunWatch.Json.Shape
import RunWatch.Platform.Kind
import RunWatch.Uuid

/-!
# Records

What is common to everything the platform keeps under an identifier: its kind, how it stands in JSON, and
the keys that only the platform writes.  A `Record` instance is all that the interface and the caches need
to know of a type.
-/

namespace RunWatch

/-- The keys that the platform assigns unless a type has its own list. -/
def assignedKeys : List String := ["created_on", "created_by", "active"]

/-- A type of things the platform keeps, each under an identifier that never changes. -/
class Record (R : Type) where
  kind : Kind
  codec : Json.Codec R
  id : R → Uuid
  /-- The keys that are left out of what is sent to the platform. -/
  readonly : List String

namespace Record

variable {R : Type} [Record R]

/-- A record as a JSON value. -/
def encode (r : R) : Json.Value :=
  (codec (R := R)).write r

/-- The record that a JSON value stands for. -/
def decode? (v : Json.Value) : Option R :=
  (codec (R := R)).ofValue? v

end Record

end RunWatch
