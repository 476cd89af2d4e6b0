import RunWatch.Json.Shape
import RunWatch.Proofs.Json.Legible

/-!
# Lawful codecs

A codec is `Lawful` if it restores every value from what it writes for it, in either manner.  What a record
declares is its `Layout`: its keys in order, each with the value that a missing key stands for, if it may be
missing.  A shape restores a value after a layout if it writes just these keys and reads its parts from any members
that have each of them once, or not at all where it stands for itself (`Shape.Restores`).

Every way of putting codecs and shapes together keeps these laws.  So a record is restored from what is written for
it as soon as its parts are, and also from any other object that `StandsFor` that one (`Codec.Recovers`): keys that
are not declared may be added, and parts that hold their default may be left out.
-/

namespace RunWatch.Json

theorem Number.toUInt64?_ofUInt64 (n : UInt64) : (ofUInt64 n).toUInt64? = some n := by
  simp [ofUInt64, toUInt64?]

namespace Codec

/-- A codec reads a value back from what it writes for it. -/
def Restores (c : Codec α) (a : α) : Prop :=
  ∀ m, c.read m (c.write a).tree = some a

/-- A codec that reads back all values. -/
def Lawful (c : Codec α) : Prop :=
  ∀ a, c.Restores a

/-- A codec whose values can be kept as text, nested within some levels. -/
def WritesLegible (c : Codec α) (levels : Nat) : Prop :=
  ∀ a, (c.write a).Legible levels

/-- A codec that leaves null to the option around it. -/
def NeverNull (c : Codec α) : Prop :=
  ∀ a, c.write a ≠ .null

/-! ## Scalars -/

theorem flag_lawful : flag.Lawful :=
  fun _ _ => rfl

theorem text_lawful : text.Lawful :=
  fun _ _ => rfl

theorem textual_lawful {print : α → String} {parse? : String → Option α} (h : ∀ a, parse? (print a) = some a) :
    (textual print parse?).Lawful :=
  fun a _ => h a

theorem uint64_lawful : uint64.Lawful :=
  fun n _ => Number.toUInt64?_ofUInt64 n

theorem uint32_lawful : uint32.Lawful := by
  intro n m
  have hread := Number.toUInt64?_ofUInt64 n.toUInt64
  have hlt : n.toNat < UInt32.size := n.toNat_lt
  simp [uint32, Value.tree, hread, hlt]

theorem constant_lawful {names : List (String × α)} {name : α → String} (h : ∀ a, ofName? names (name a) = some a) :
    (constant names name).Lawful :=
  fun a _ => h a

theorem members_restores {ms : Members} (h : (Value.object ms).Ordered) : members.Restores ms :=
  fun _ => h.members?_object

theorem text_neverNull : text.NeverNull :=
  nofun

theorem textual_neverNull (print : α → String) (parse? : String → Option α) : (textual print parse?).NeverNull :=
  nofun

theorem uint64_neverNull : uint64.NeverNull :=
  nofun

/-! ## Options and lists -/

theorem optional_restores {c : Codec α} {a : Option α} (h : ∀ x ∈ a, c.Restores x ∧ c.write x ≠ .null) :
    c.optional.Restores a := by
  intro m
  cases a with
  | none => rfl
  | some a =>
    obtain ⟨hrestores, hne⟩ := h a rfl
    have hread := hrestores m
    cases hv : c.write a with
    | null => exact absurd hv hne
    | _ =>
      simp only [hv, Value.tree] at hread
      simp only [optional, hv, Value.tree, hread, Option.map_some]

theorem optional_lawful {c : Codec α} (h : c.Lawful) (hnull : c.NeverNull) : c.optional.Lawful :=
  fun _ => optional_restores fun x _ => ⟨h x, hnull x⟩

theorem list_lawful {c : Codec α} (h : c.Lawful) : c.list.Lawful := by
  intro as m
  change (Value.trees (as.map c.write)).mapM (c.read m) = some as
  induction as with
  | nil => rfl
  | cons a as ih => simp [Value.trees, h a m, ih]

end Codec

/-! ## Layouts -/

/-- The keys that a record declares, each with the value that a missing key stands for, if it may be missing. -/
abbrev Layout := List (String × Option Value)

/-- One object stands for another in a layout: each key declared has the same value in both, or is left out where
it stands for itself.  Keys that are not declared make no difference. -/
def Members.StandsFor (layout : Layout) (given full : Members) : Prop :=
  ∀ part ∈ layout, given.find? part.1 = full.find? part.1 ∨ given.find? part.1 = none ∧ full.find? part.1 = part.2

theorem Members.StandsFor.refl (layout : Layout) (ms : Members) : ms.StandsFor layout ms :=
  fun _ _ => .inl rfl

/-- A codec recovers a record: what it writes for it is an object, and it reads the record back from that object
and from every other that stands for it in a layout. -/
def Codec.Recovers (c : Codec α) (layout : Layout) (a : α) : Prop :=
  c.ofValue? (c.write a) = some a ∧
    ∃ full : Members, c.write a = .object full ∧
      ∀ given : Members, given.Sorted → given.StandsFor layout full → c.ofValue? (.object given) = some a

/-! ## Shapes -/

namespace Shape

/-- A shape restores a value after a layout: it writes the keys declared, and reads the value from any members in
which each of its parts stands just once, or is left out where a missing key stands for it. -/
structure Restores (s : Shape α) (layout : Layout) (a : α) : Prop where
  keys : (s.members a).map Prod.fst = layout.map Prod.fst
  read : (layout.map Prod.fst).Nodup → ∀ m ms,
    (∀ e ∈ s.members a, under e.1 ms = [e.2.tree] ∨ under e.1 ms = [] ∧ (e.1, some e.2) ∈ layout) →
      s.read m ms = some a

theorem required_restores (key : String) {c : Codec α} {a : α} (h : c.Restores a) :
    (required key c).Restores [(key, none)] a := by
  refine ⟨rfl, fun _ m ms hms => ?_⟩
  rcases hms (key, c.write a) List.mem_cons_self with hunder | ⟨-, habsent⟩
  · simp only [required, field, hunder]
    exact h m
  · simp at habsent

theorem defaulted_restores (key : String) {c : Codec α} {a d : α} (h : c.Restores a) (hd : c.Restores d) :
    (defaulted key c d).Restores [(key, some (c.write d))] a := by
  refine ⟨rfl, fun _ m ms hms => ?_⟩
  rcases hms (key, c.write a) List.mem_cons_self with hunder | ⟨hunder, habsent⟩
  · simp only [defaulted, field, hunder]
    exact h m
  · -- The value is written like the default, and so it is the default.
    have hwrite : c.write a = c.write d := by simpa using habsent
    have hread := h m
    rw [hwrite, hd m] at hread
    simp only [defaulted, field, hunder]
    exact hread

theorem possible_restores (key : String) {c : Codec α} (h : c.Lawful) (hnull : c.NeverNull) (a : Option α) :
    (possible key c).Restores [(key, some .null)] a :=
  defaulted_restores key (Codec.optional_lawful h hnull a) (Codec.optional_lawful h hnull none)

/-- An option whose value is never null and comes back, though others of its type may not. -/
theorem possible_restores_of (key : String) {c : Codec α} {a : Option α}
    (h : ∀ x ∈ a, c.Restores x ∧ c.write x ≠ .null) : (possible key c).Restores [(key, some .null)] a :=
  defaulted_restores key (Codec.optional_restores h) (Codec.optional_restores nofun)

theorem listed_restores (key : String) {c : Codec α} (h : c.Lawful) (as : List α) :
    (defaulted key c.list []).Restores [(key, some (.array []))] as :=
  defaulted_restores key (Codec.list_lawful h as) (Codec.list_lawful h [])

theorem Restores.both {s : Shape α} {t : Shape β} {layout layout' : Layout} {a : α} {b : β}
    (hs : s.Restores layout a) (ht : t.Restores layout' b) : (s.both t).Restores (layout ++ layout') (a, b) := by
  refine ⟨?_, fun hkeys m ms hms => ?_⟩
  · simp only [Shape.both, List.map_append, hs.keys, ht.keys]
  · rw [List.map_append] at hkeys
    obtain ⟨hleft, hright, hapart⟩ := List.nodup_append.mp hkeys
    have ha : s.read m ms = some a := hs.read hleft m ms fun e he => by
      have hkey : e.1 ∈ layout.map Prod.fst := hs.keys ▸ List.mem_map_of_mem he
      refine (hms e (List.mem_append_left _ he)).imp_right (And.imp_right fun habsent => ?_)
      exact (List.mem_append.mp habsent).resolve_right fun h => hapart _ hkey _ (List.mem_map_of_mem h) rfl
    have hb : t.read m ms = some b := ht.read hright m ms fun e he => by
      have hkey : e.1 ∈ layout'.map Prod.fst := ht.keys ▸ List.mem_map_of_mem he
      refine (hms e (List.mem_append_right _ he)).imp_right (And.imp_right fun habsent => ?_)
      exact (List.mem_append.mp habsent).resolve_left fun h => hapart _ (List.mem_map_of_mem h) _ hkey rfl
    simp [Shape.both, ha, hb]

theorem Restores.of {s : Shape α} {layout : Layout} {build : α → β} {parts : β → α} {b : β}
    (hs : s.Restores layout (parts b)) (h : build (parts b) = b) : (s.of build parts).Restores layout b := by
  refine ⟨hs.keys, fun hkeys m ms hms => ?_⟩
  simp [Shape.of, hs.read hkeys m ms hms, h]

theorem Restores.heldBack {s : Shape α} {layout : Layout} {a : α} (hs : s.Restores layout a) :
    s.heldBack.Restores layout a :=
  ⟨hs.keys, fun hkeys _ => hs.read hkeys .heldBack⟩

/-- A shape refuses what it writes for a value: it reads nothing from members in which each of its parts stands just
once. -/
def Refuses (s : Shape α) (a : α) : Prop :=
  ∀ m ms, (∀ e ∈ s.members a, under e.1 ms = [e.2.tree]) → s.read m ms = none

theorem required_refuses (key : String) {c : Codec α} {a : α} (h : ∀ m, c.read m (c.write a).tree = none) :
    (required key c).Refuses a := by
  intro m ms hms
  have hunder := hms (key, c.write a) List.mem_cons_self
  simp only [required, field, hunder]
  exact h m

/-- Two groups of parts are refused if the second one is. -/
theorem Refuses.both (s : Shape α) {t : Shape β} (a : α) {b : β} (h : t.Refuses b) : (s.both t).Refuses (a, b) := by
  intro m ms hms
  have hnone := h m ms fun e he => hms e (List.mem_append_right _ he)
  simp [Shape.both, hnone]

theorem Refuses.of {s : Shape α} {build : α → β} {parts : β → α} {b : β} (h : s.Refuses (parts b)) :
    (s.of build parts).Refuses b := by
  intro m ms hms
  simp [Shape.of, h m ms hms]

theorem Refuses.heldBack {s : Shape α} {a : α} (h : s.Refuses a) : s.heldBack.Refuses a :=
  fun _ => h .heldBack

theorem under_cons (key k : String) (t : Tree) (ms : List (String × Tree)) :
    under key ((k, t) :: ms) = if k = key then t :: under key ms else under key ms := by
  by_cases h : k = key
  · simp [under, h]
  · simp [under, h]

theorem under_eq_nil {key : String} {ms : Members} (h : ms.find? key = none) :
    under key (Value.memberTrees ms) = [] := by
  induction ms with
  | nil => rfl
  | cons m ms ih =>
    obtain ⟨k, v⟩ := m
    rw [Members.find?_cons] at h
    rw [Value.memberTrees, under_cons]
    by_cases hk : k = key
    · rw [if_pos hk] at h
      cases h
    · rw [if_neg hk] at h ⊢
      exact ih h

/-- The keys of an object are distinct, so a key stands there just once. -/
theorem under_memberTrees {ms : Members} (hs : ms.Sorted) {key : String} {v : Value}
    (h : ms.find? key = some v) : under key (Value.memberTrees ms) = [v.tree] := by
  induction ms with
  | nil => cases h
  | cons m ms ih =>
    obtain ⟨k, w⟩ := m
    obtain ⟨hfirst, hrest⟩ := List.pairwise_cons.mp hs
    rw [Members.find?_cons] at h
    rw [Value.memberTrees, under_cons]
    by_cases hk : k = key
    · rw [if_pos hk] at h ⊢
      cases h
      have hnone : Members.find? key ms = none :=
        Members.find?_eq_none_of_contains (hk ▸ Members.contains_of_forall_lt hfirst)
      rw [under_eq_nil hnone]
    · rw [if_neg hk] at h ⊢
      exact ih hrest h

/-- A value is read from every object that stands for the one that its members make up. -/
theorem Restores.read_standsFor {s : Shape α} {layout : Layout} {a : α} (h : s.Restores layout a)
    (hkeys : (layout.map Prod.fst).Nodup) {given : Members} (hs : given.Sorted)
    (hgiven : given.StandsFor layout (Members.ofList (s.members a))) (m : Manner) :
    s.read m (Value.memberTrees given) = some a := by
  refine h.read hkeys m _ fun e he => ?_
  have hfull : (Members.ofList (s.members a)).find? e.1 = some e.2 := Members.find?_ofList (h.keys ▸ hkeys) he
  have hdeclared : e.1 ∈ layout.map Prod.fst := h.keys ▸ List.mem_map_of_mem he
  obtain ⟨⟨key, absent⟩, hpart, hkey : key = e.1⟩ := List.mem_map.mp hdeclared
  subst hkey
  rcases hgiven _ hpart with hsame | ⟨hnone, habsent⟩
  · exact .inl (under_memberTrees hs (hsame.trans hfull))
  · have hvalue : absent = some e.2 := habsent.symm.trans hfull
    exact .inr ⟨under_eq_nil hnone, hvalue ▸ hpart⟩

theorem Restores.read_ofList {s : Shape α} {layout : Layout} {a : α} (h : s.Restores layout a)
    (hkeys : (layout.map Prod.fst).Nodup) (m : Manner) :
    s.read m (Value.memberTrees (Members.ofList (s.members a))) = some a :=
  h.read_standsFor hkeys (Members.sorted_ofList _) (.refl layout _) m

end Shape

/-! ## Records -/

namespace Codec

variable {s : Shape α} {layout : Layout} {a : α}

theorem record_restores (h : s.Restores layout a) (hkeys : (layout.map Prod.fst).Nodup) : (record s).Restores a :=
  h.read_ofList hkeys

theorem record_recovers (h : s.Restores layout a) (hkeys : (layout.map Prod.fst).Nodup) :
    (record s).Recovers layout a :=
  ⟨h.read_ofList hkeys .direct, _, rfl, fun _ hs hgiven => h.read_standsFor hkeys hs hgiven .direct⟩

/-- An object is read by the codec of a shared record as it is by the shape. -/
theorem read_shared (own : List String) (s : Shape α) (m : Manner) (ms : Members) :
    (shared own s).read m (Value.object ms).tree = s.read m (Value.memberTrees ms) := by
  refine if_pos (List.all_eq_true.mpr fun e he => ?_)
  obtain ⟨member, -, rfl⟩ := mem_memberTrees he
  rw [Tree.isReadable, isSome_value?_tree, Bool.or_true]

theorem shared_restores (h : s.Restores layout a) (hkeys : (layout.map Prod.fst).Nodup) (own : List String) :
    (shared own s).Restores a :=
  fun m => (read_shared own s m _).trans (h.read_ofList hkeys m)

theorem shared_recovers (h : s.Restores layout a) (hkeys : (layout.map Prod.fst).Nodup) (own : List String) :
    (shared own s).Recovers layout a := by
  refine ⟨shared_restores h hkeys own .direct, _, rfl, fun given hs hgiven => ?_⟩
  exact (read_shared own s .direct given).trans (h.read_standsFor hkeys hs hgiven .direct)

/-- What a shape refuses is not read back by the codec of a shared record. -/
theorem shared_refuses (h : s.Refuses a) (hkeys : ((s.members a).map Prod.fst).Nodup) (own : List String) :
    (shared own s).ofValue? ((shared own s).write a) = none := by
  refine (read_shared own s .direct _).trans (h .direct _ fun e he => ?_)
  exact Shape.under_memberTrees (Members.sorted_ofList _) (Members.find?_ofList hkeys he)

theorem record_neverNull (s : Shape α) : (record s).NeverNull :=
  nofun

end Codec

/-! ## Legible records -/

/-- A shape whose parts can be kept as text, nested within some levels. -/
def Shape.WritesLegible (s : Shape α) (levels : Nat) : Prop :=
  ∀ a, ∀ e ∈ s.members a, e.2.Legible levels

theorem Shape.field_writesLegible {c : Codec α} {levels : Nat} (h : c.WritesLegible levels) (key : String)
    (absent : Option α) : (field key c absent).WritesLegible levels := by
  intro a e he
  obtain rfl := List.mem_singleton.mp he
  exact h a

theorem Shape.WritesLegible.both {s : Shape α} {t : Shape β} {levels : Nat} (hs : s.WritesLegible levels)
    (ht : t.WritesLegible levels) : (s.both t).WritesLegible levels := by
  intro p e he
  rcases List.mem_append.mp he with he | he
  · exact hs p.1 e he
  · exact ht p.2 e he

theorem Shape.WritesLegible.of {s : Shape α} {levels : Nat} (hs : s.WritesLegible levels) (build : α → β)
    (parts : β → α) : (s.of build parts).WritesLegible levels :=
  fun b => hs (parts b)

theorem Shape.WritesLegible.heldBack {s : Shape α} {levels : Nat} (hs : s.WritesLegible levels) :
    s.heldBack.WritesLegible levels :=
  hs

namespace Codec

theorem flag_writesLegible (levels : Nat) : flag.WritesLegible levels :=
  .bool

theorem text_writesLegible (levels : Nat) : text.WritesLegible levels :=
  .string

theorem optional_writesLegible {c : Codec α} {levels : Nat} (h : c.WritesLegible levels) :
    c.optional.WritesLegible levels
  | none => .null
  | some a => h a

theorem textual_writesLegible (print : α → String) (parse? : String → Option α) (levels : Nat) :
    (textual print parse?).WritesLegible levels :=
  fun a => .string (print a)

theorem record_writesLegible {s : Shape α} {levels : Nat} (h : s.WritesLegible levels) :
    (record s).WritesLegible (levels + 1) :=
  fun a => .object (Members.sorted_ofList _) fun m hm => h a m (Members.mem_ofList hm)

theorem shared_writesLegible {s : Shape α} {levels : Nat} (h : s.WritesLegible levels) (own : List String) :
    (shared own s).WritesLegible (levels + 1) :=
  record_writesLegible h

end Codec

end RunWatch.Json
