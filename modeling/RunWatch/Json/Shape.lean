import RunWatch.Json.Codec

/-!
# Shapes of records

The shape of a record says under which keys its parts stand, how each is written and which value an
absent key stands for.  Shapes are put together with `Shape.both` and brought to a structure with
`Shape.of`, so one description serves to write a record, to read it from an object and to read it from
an array of its parts in order.

A key that the shape declares must not stand twice; keys it does not declare are passed over.
-/

namespace RunWatch.Json

/-- The description of the parts that make up an `α`. -/
structure Shape (α : Type) where
  /-- The members of a value, in the order of declaration. -/
  members : α → List (String × Value)
  /-- The value that the members of an object carry. -/
  read : Manner → List (String × Tree) → Option α
  /-- The value that the first items of an array carry, and the items behind them. -/
  readItems : Manner → List Tree → Option (α × List Tree)

namespace Shape

/-- The trees that stand under a key. -/
def under (key : String) (ms : List (String × Tree)) : List Tree :=
  (ms.filter fun m => m.1 = key).map Prod.snd

/-! ## Single parts -/

/-- One part under a key.  `absent` is the value that a missing key stands for, if it may be missing. -/
def field (key : String) (codec : Codec α) (absent : Option α) : Shape α where
  members a := [(key, codec.write a)]
  read m ms :=
    match under key ms with
    | [] => absent
    | [t] => codec.read m t
    | _ => none
  readItems m ts :=
    match ts with
    | [] => absent.map (·, [])
    | t :: ts => (codec.read m t).map (·, ts)

/-- A part that has to be there. -/
def required (key : String) (codec : Codec α) : Shape α :=
  field key codec none

/-- A part that may be missing, and stands for `value` then. -/
def defaulted (key : String) (codec : Codec α) (value : α) : Shape α :=
  field key codec (some value)

/-- A part that may be missing or null. -/
def possible (key : String) (codec : Codec α) : Shape (Option α) :=
  defaulted key codec.optional none

/-! ## Putting parts together -/

/-- Two groups of parts. -/
def both (s : Shape α) (t : Shape β) : Shape (α × β) where
  members p := s.members p.1 ++ t.members p.2
  read m ms := do
    let a ← s.read m ms
    let b ← t.read m ms
    some (a, b)
  readItems m ts := do
    let (a, ts) ← s.readItems m ts
    let (b, ts) ← t.readItems m ts
    some ((a, b), ts)

/-- The same parts as another type. -/
def of (s : Shape α) (build : α → β) (parts : β → α) : Shape β where
  members b := s.members (parts b)
  read m ms := (s.read m ms).map build
  readItems m ts := (s.readItems m ts).map fun r => (build r.1, r.2)

/-- The same parts, read from members held back. -/
def heldBack (s : Shape α) : Shape α :=
  { s with read := fun _ ms => s.read .heldBack ms }

end Shape

/-! ## Codecs of records -/

namespace Codec

/-- A record: an object, or an array of its parts without any further item. -/
def record (s : Shape α) : Codec α where
  write a := Value.ofMembers (s.members a)
  read
    | m, .object ms => s.read m ms
    | m, .array ts =>
      match s.readItems m ts with
      | some (a, []) => some a
      | _ => none
    | _, _ => none

/-- A record that shares its object with other parts.  All members but its own are held back, so they
have to be readable, declared or not; an array does not do. -/
def shared (own : List String) (s : Shape α) : Codec α where
  write a := Value.ofMembers (s.members a)
  read
    | m, .object ms =>
      if ms.all fun e => own.contains e.1 || e.2.isReadable then s.read m ms else none
    | _, _ => none

end Codec

end RunWatch.Json
