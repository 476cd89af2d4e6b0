import Mathlib.Data.List.Nodup
import RunWatch.Api.Route
import RunWatch.Proofs.Uuid

/-!
# Addresses are unambiguous

Under one root no two things have the same address (`Target.url_eq_iff`).  Neither segments of kinds nor the texts of
identifiers have slashes, so an address splits into the segments it was put together from, and these tell what it is of:
there is one segment for a collection at the top, there are two for a record and three for a collection below a parent.
-/

namespace RunWatch

/-! ## Segments -/

namespace Kind

theorem mem_all (k : Kind) : k ∈ all := by
  cases k <;> decide

theorem segment_injective : Function.Injective segment := by
  have hnodup : (all.map segment).Nodup := by decide +kernel
  intro k k' h
  exact List.inj_on_of_nodup_map hnodup (mem_all k) (mem_all k') h

theorem slash_not_mem_segment (k : Kind) : '/' ∉ k.segment.toList := by
  cases k <;> decide

end Kind

theorem Uuid.slash_not_mem_text (u : Uuid) : '/' ∉ u.text.toList := by
  intro h
  rcases mem_text h with hhyphen | ⟨d, hd⟩
  · exact absurd hhyphen (by decide)
  · revert d
    decide

namespace Api

/-- What an address is of: all records of a kind, those of them that belong to a parent, or a single record. -/
inductive Target where
  | collection (kind : Kind)
  | below (parent : Kind) (id : Uuid) (kind : Kind)
  | record (kind : Kind) (id : Uuid)
  deriving DecidableEq

namespace Target

/-- The segments that an address has behind the root. -/
def segments : Target → List String
  | collection kind => [kind.segment]
  | below parent id kind => [parent.segment, id.text, kind.segment]
  | record kind id => [kind.segment, id.text]

/-- The address of a target: its segments behind the root, each with a slash in front. -/
def url (root : String) (t : Target) : String :=
  root ++ "/" ++ "/".intercalate t.segments

theorem segments_ne_nil (t : Target) : t.segments ≠ [] := by
  cases t <;> exact List.cons_ne_nil _ _

theorem slash_not_mem_segments {t : Target} {s : String} (h : s ∈ t.segments) : '/' ∉ s.toList := by
  cases t with
  | collection kind =>
    obtain rfl := List.mem_singleton.mp h
    exact kind.slash_not_mem_segment
  | below parent id kind =>
    simp only [segments, List.mem_cons, List.not_mem_nil, or_false] at h
    rcases h with rfl | rfl | rfl
    · exact parent.slash_not_mem_segment
    · exact id.slash_not_mem_text
    · exact kind.slash_not_mem_segment
  | record kind id =>
    simp only [segments, List.mem_cons, List.not_mem_nil, or_false] at h
    rcases h with rfl | rfl
    · exact kind.slash_not_mem_segment
    · exact id.slash_not_mem_text

theorem segments_injective : Function.Injective segments := by
  intro t t' h
  cases t <;> cases t' <;>
    simp_all [segments, Kind.segment_injective.eq_iff, Uuid.text_injective.eq_iff]

/-- The segments can be read off the address. -/
theorem splitOn_url (root : String) (t : Target) :
    ((t.url root).toList.drop (root.toList.length + 1)).splitOn '/' = t.segments.map String.toList := by
  have hslash : ∀ s ∈ t.segments.map String.toList, '/' ∉ s := by
    intro s hs
    obtain ⟨text, htext, rfl⟩ := List.mem_map.mp hs
    exact slash_not_mem_segments htext
  have hurl : (t.url root).toList.drop (root.toList.length + 1) =
      ['/'].intercalate (t.segments.map String.toList) := by
    simp [url, List.drop_append]
  rw [hurl, List.splitOn_intercalate '/' hslash (mt List.map_eq_nil_iff.mp t.segments_ne_nil)]

theorem url_eq_iff (root : String) (t t' : Target) : t.url root = t'.url root ↔ t = t' := by
  refine ⟨fun h => ?_, congrArg (url root)⟩
  have hsegments : t.segments.map String.toList = t'.segments.map String.toList := by
    rw [← splitOn_url root, h, splitOn_url]
  exact segments_injective (List.map_injective_iff.mpr (fun _ _ => String.toList_inj.mp) hsegments)

end Target

namespace Route

/-- What the address of a collection is of.  The parent counts if both its kind and its identifier are known. -/
def collectionTarget (r : Route) (parentId : Option Uuid) : Target :=
  match r.parent, parentId with
  | some parent, some id => .below parent id r.kind
  | _, _ => .collection r.kind

theorem collectionTarget_ne_record (r : Route) (parentId : Option Uuid) (kind : Kind) (id : Uuid) :
    r.collectionTarget parentId ≠ .record kind id := by
  unfold collectionTarget
  split <;> exact Target.noConfusion

theorem collectionUrl_eq (r : Route) (root : String) (parentId : Option Uuid) :
    r.collectionUrl root parentId = (r.collectionTarget parentId).url root := by
  obtain ⟨kind, parent⟩ := r
  apply String.toList_inj.mp
  cases parent with
  | none => simp [collectionUrl, collectionTarget, Target.url, Target.segments]
  | some parent =>
    cases parentId with
    | none => simp [collectionUrl, collectionTarget, Target.url, Target.segments]
    | some id => simp [collectionUrl, collectionTarget, Target.url, Target.segments]

theorem itemUrl_eq (r : Route) (root : String) (id : Uuid) : r.itemUrl root id = (Target.record r.kind id).url root := by
  apply String.toList_inj.mp
  simp [itemUrl, Target.url, Target.segments]

/-- Under every root, the addresses of two collections are equal exactly if the kinds are and both are at the top or
below the same parent, those of two records exactly if kinds and identifiers are, and no collection has the address of a
record.  A parent of which only the kind or only the identifier is known makes no difference. -/
theorem addresses_unambiguous (root : String) :
    (∀ (r r' : Route) (parentId parentId' : Option Uuid),
      r.collectionUrl root parentId = r'.collectionUrl root parentId' ↔
        r.collectionTarget parentId = r'.collectionTarget parentId') ∧
    (∀ (r r' : Route) (id id' : Uuid), r.itemUrl root id = r'.itemUrl root id' ↔ r.kind = r'.kind ∧ id = id') ∧
    (∀ (r r' : Route) (parentId : Option Uuid) (id : Uuid), r.collectionUrl root parentId ≠ r'.itemUrl root id) ∧
    ∀ (kind : Kind) (parent : Option Kind) (parentId : Option Uuid),
      collectionUrl ⟨kind, parent⟩ root none = collectionUrl ⟨kind, none⟩ root none ∧
      collectionUrl ⟨kind, none⟩ root parentId = collectionUrl ⟨kind, none⟩ root none := by
  have hcollections (r r' : Route) (parentId parentId' : Option Uuid) :
      r.collectionUrl root parentId = r'.collectionUrl root parentId' ↔
        r.collectionTarget parentId = r'.collectionTarget parentId' := by
    rw [collectionUrl_eq, collectionUrl_eq, Target.url_eq_iff]
  refine ⟨hcollections, fun r r' id id' => ?_, fun r r' parentId id => ?_, fun kind parent parentId => ⟨?_, ?_⟩⟩
  · rw [itemUrl_eq, itemUrl_eq, Target.url_eq_iff, Target.record.injEq]
  · rw [collectionUrl_eq, itemUrl_eq, ne_eq, Target.url_eq_iff]
    exact r.collectionTarget_ne_record parentId r'.kind id
  · refine (hcollections _ _ _ _).mpr ?_
    cases parent <;> rfl
  · exact (hcollections _ _ _ _).mpr rfl

end Route

end Api

end RunWatch
