import RunWatch.Platform.Project
import RunWatch.Proofs.Calendar.Stamp
import RunWatch.Proofs.Json.Lawful
import RunWatch.Proofs.Uuid

/-!
# Projects written and read

A project is read back from its value (`Project.decode?_encode`), and that value can be kept as text
(`Project.encode_legible`).  Identifiers, instants, authors and profiles are lawful parts of every record.
-/

namespace RunWatch

open Json (Codec Layout Shape)

theorem Uuid.codec_lawful : Uuid.codec.Lawful :=
  Codec.textual_lawful Uuid.ofText?_text

theorem Uuid.codec_neverNull : Uuid.codec.NeverNull :=
  Codec.textual_neverNull _ _

theorem Instant.codec_lawful : Instant.codec.Lawful :=
  Codec.textual_lawful Instant.ofStamp?_stamp

theorem Instant.codec_neverNull : Instant.codec.NeverNull :=
  Codec.textual_neverNull _ _

namespace Author

def layout : Layout :=
  [("id", none), ("name", some .null)]

theorem shape_restores (a : Author) : shape.Restores layout a := by
  have hid := Shape.required_restores "id" (Uuid.codec_lawful a.id)
  have hname := Shape.possible_restores "name" Codec.text_lawful Codec.text_neverNull a.name
  exact Shape.Restores.of (hid.both hname) rfl

theorem codec_lawful : codec.Lawful :=
  fun a => Codec.record_restores (shape_restores a) (by decide)

theorem codec_writesLegible : codec.WritesLegible 1 := by
  have hid : (Shape.required "id" Uuid.codec).WritesLegible 0 :=
    Shape.field_writesLegible (Codec.textual_writesLegible _ _ 0) _ _
  have hname : (Shape.possible "name" Codec.text).WritesLegible 0 :=
    Shape.field_writesLegible (Codec.optional_writesLegible (Codec.text_writesLegible 0)) _ _
  exact Codec.record_writesLegible ((hid.both hname).of _ _)

end Author

namespace Profile

/-- A profile without the key `active` is active. -/
def layout : Layout :=
  [("id", none), ("name", none), ("description", some .null), ("created_on", some .null), ("created_by", some .null),
    ("active", some (.bool true))]

theorem shape_restores (p : Profile) : shape.Restores layout p := by
  have hid := Shape.required_restores "id" (Uuid.codec_lawful p.id)
  have hname := Shape.required_restores "name" (Codec.text_lawful p.name)
  have hdescription := Shape.possible_restores "description" Codec.text_lawful Codec.text_neverNull p.description
  have hcreatedOn := Shape.possible_restores "created_on" Instant.codec_lawful Instant.codec_neverNull p.createdOn
  have hcreatedBy := Shape.possible_restores "created_by" Author.codec_lawful (Codec.record_neverNull _) p.createdBy
  have hactive := Shape.defaulted_restores "active" (Codec.flag_lawful p.active) (Codec.flag_lawful true)
  have h := hid.both (hname.both (hdescription.both (hcreatedOn.both (hcreatedBy.both hactive))))
  exact Shape.Restores.of h rfl

theorem shape_writesLegible : shape.WritesLegible 1 := by
  have hid : (Shape.required "id" Uuid.codec).WritesLegible 1 :=
    Shape.field_writesLegible (Codec.textual_writesLegible _ _ 1) _ _
  have hname : (Shape.required "name" Codec.text).WritesLegible 1 :=
    Shape.field_writesLegible (Codec.text_writesLegible 1) _ _
  have hdescription : (Shape.possible "description" Codec.text).WritesLegible 1 :=
    Shape.field_writesLegible (Codec.optional_writesLegible (Codec.text_writesLegible 1)) _ _
  have hcreatedOn : (Shape.possible "created_on" Instant.codec).WritesLegible 1 :=
    Shape.field_writesLegible (Codec.optional_writesLegible (Codec.textual_writesLegible _ _ 1)) _ _
  have hcreatedBy : (Shape.possible "created_by" Author.codec).WritesLegible 1 :=
    Shape.field_writesLegible (Codec.optional_writesLegible Author.codec_writesLegible) _ _
  have hactive : (Shape.defaulted "active" Codec.flag true).WritesLegible 1 :=
    Shape.field_writesLegible (Codec.flag_writesLegible 1) _ _
  exact (hid.both (hname.both (hdescription.both (hcreatedOn.both (hcreatedBy.both hactive))))).of _ _

end Profile

namespace Project

theorem shape_restores (p : Project) : shape.Restores Profile.layout p :=
  (Profile.shape_restores p.profile).heldBack.of rfl

theorem codec_lawful : (Record.codec (R := Project)).Lawful :=
  fun p => Codec.shared_restores (shape_restores p) (by decide) []

/-- A project is read back from its value. -/
theorem decode?_encode (p : Project) : Record.decode? (Record.encode p) = some p :=
  codec_lawful p .direct

theorem encode_injective : Function.Injective (Record.encode (R := Project)) := fun p q h => by
  have hp := decode?_encode p
  rw [h, decode?_encode] at hp
  exact (Option.some.inj hp).symm

/-- The value of a project is an object that holds no object but the one of its author. -/
theorem encode_legible (p : Project) : (Record.encode p).Legible 2 :=
  Codec.shared_writesLegible (Profile.shape_writesLegible.heldBack.of _ _) [] p

/-- There is no number in the value of a project. -/
theorem plain_encode (p : Project) : (Record.encode p).plain = Record.encode p := by
  obtain ⟨⟨id, name, description, createdOn, createdBy, active⟩⟩ := p
  have hauthor (a : Author) : (Author.codec.write a).plain = Author.codec.write a := by
    obtain ⟨id, name⟩ := a
    refine Json.Members.plain_ofMembers fun m hm => ?_
    change m ∈ [("id", _), ("name", _)] at hm
    rcases List.mem_pair.mp hm with rfl | rfl
    · rfl
    · cases name <;> rfl
  refine Json.Members.plain_ofMembers fun m hm => ?_
  change m ∈ [("id", _), ("name", _), ("description", _), ("created_on", _), ("created_by", _), ("active", _)] at hm
  simp only [List.mem_cons, List.not_mem_nil, or_false] at hm
  rcases hm with rfl | rfl | rfl | rfl | rfl | rfl
  · rfl
  · rfl
  · cases description <;> rfl
  · cases createdOn <;> rfl
  · cases createdBy with
    | none => rfl
    | some a => exact hauthor a
  · rfl

end Project

end RunWatch
