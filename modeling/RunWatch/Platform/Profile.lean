import RunWatch.Calendar.Stamp
import RunWatch.Platform.Record

/-!
# Profiles

The part that all named records of the platform share: identifier, name, description, and when and by
whom they were created.
-/

namespace RunWatch

open Json (Shape Codec)

/-- The user who created a record. -/
structure Author where
  id : Uuid
  name : Option String
  deriving DecidableEq

namespace Author

def shape : Shape Author :=
  ((Shape.required "id" Uuid.codec).both (Shape.possible "name" Codec.text)).of
    (fun (id, name) => ⟨id, name⟩) (fun a => (a.id, a.name))

def codec : Codec Author := Codec.record shape

end Author

/-- What named records have in common. -/
structure Profile where
  id : Uuid
  name : String
  description : Option String
  createdOn : Option Instant
  createdBy : Option Author
  active : Bool
  deriving DecidableEq

namespace Profile

/-- The parts of a profile; a record without the key `active` is active. -/
def shape : Shape Profile :=
  ((Shape.required "id" Uuid.codec).both <|
    (Shape.required "name" Codec.text).both <|
    (Shape.possible "description" Codec.text).both <|
    (Shape.possible "created_on" Instant.codec).both <|
    (Shape.possible "created_by" Author.codec).both <|
    Shape.defaulted "active" Codec.flag true).of
    (fun (id, name, description, createdOn, createdBy, active) =>
      ⟨id, name, description, createdOn, createdBy, active⟩)
    (fun p => (p.id, p.name, p.description, p.createdOn, p.createdBy, p.active))

def codec : Codec Profile := Codec.record shape

end Profile

end RunWatch
