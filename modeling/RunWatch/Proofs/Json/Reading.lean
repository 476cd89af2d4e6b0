import RunWatch.Proofs.Json.Legible

/-!
# What has been read can be written and read

A value that has been read from a text can be written and read (`readable_of_read?`): the reader nests containers
within its limit and gives objects with their keys in order.  It is read back as the same value if its floating-point
numbers are (`Value.Readable.legible`), which is not known of every one of them, since the reader may round them twice.
The legible values are just those that are read back from what they are written as (`Value.legible_iff_readBack`).
-/

namespace RunWatch.Json

/-! ## Nesting -/

/-- A tree whose containers are nested within some levels. -/
inductive Tree.Within : Nat → Tree → Prop
  | null {levels : Nat} : Within levels .null
  | bool {levels : Nat} (b : Bool) : Within levels (.bool b)
  | number {levels : Nat} (n : Number) : Within levels (.number n)
  | string {levels : Nat} (s : String) : Within levels (.string s)
  | array {levels : Nat} {items : List Tree} (h : ∀ t ∈ items, Within levels t) :
    Within (levels + 1) (.array items)
  | object {levels : Nat} {ms : List (String × Tree)} (h : ∀ m ∈ ms, Within levels m.2) :
    Within (levels + 1) (.object ms)
  | unreadable {levels : Nat} : Within levels .unreadable

theorem Tree.Within.nested_array {levels : Nat} {items : List Tree} (h : ∀ t ∈ items, t.Within (levels - 1)) :
    (nested levels (.array items)).Within levels := by
  cases levels with
  | zero => exact .unreadable
  | succ levels => exact .array h

theorem Tree.Within.nested_object {levels : Nat} {ms : Option (List (String × Tree))}
    (h : ∀ l ∈ ms, ∀ m ∈ l, m.2.Within (levels - 1)) :
    (nested levels (ms.elim .unreadable .object)).Within levels := by
  cases levels with
  | zero => exact .unreadable
  | succ levels =>
    cases ms with
    | none => exact .unreadable
    | some l => exact .object (h l rfl)

theorem within_of_readNumber {levels : Nat} {negative : Bool} {cs rest : List Char} {t : Tree}
    (h : readNumber negative cs = some (t, rest)) : t.Within levels := by
  obtain ⟨⟨d, r⟩, -, heq⟩ := Option.bind_eq_some_iff.mp h
  cases heq
  unfold numeralTree
  split
  · exact .number _
  · exact .unreadable

/-- What the three readers give with this fuel is nested within the levels that they were given. -/
structure ReadsWithin (fuel : Nat) : Prop where
  value {levels : Nat} {cs rest : List Char} {t : Tree} :
    readValue fuel levels cs = some (t, rest) → t.Within levels
  items {levels : Nat} {cs rest : List Char} {ts : List Tree} :
    readItems fuel levels cs = some (ts, rest) → ∀ t ∈ ts, t.Within levels
  members {levels : Nat} {cs rest : List Char} {ms : Option (List (String × Tree))} :
    readMembers fuel levels cs = some (ms, rest) → ∀ l ∈ ms, ∀ m ∈ l, m.2.Within levels

theorem ReadsWithin.value_succ {fuel levels : Nat} (hfuel : ReadsWithin fuel) {cs rest : List Char} {t : Tree}
    (h : readValue (fuel + 1) levels cs = some (t, rest)) : t.Within levels := by
  unfold readValue at h
  split at h
  · cases h
  · obtain ⟨⟨s, r⟩, -, heq⟩ := Option.bind_eq_some_iff.mp h
    cases s <;> cases heq
    · exact .unreadable
    · exact .string _
  · split at h
    · cases h
      exact .nested_array fun t ht => absurd ht List.not_mem_nil
    · obtain ⟨⟨ts, r⟩, hitems, heq⟩ := Option.bind_eq_some_iff.mp h
      cases heq
      exact .nested_array (hfuel.items hitems)
  · split at h
    · cases h
      have hnone : ∀ l ∈ some ([] : List (String × Tree)), ∀ m ∈ l, m.2.Within (levels - 1) := by simp
      exact .nested_object hnone
    · obtain ⟨⟨ms, r⟩, hmembers, heq⟩ := Option.bind_eq_some_iff.mp h
      cases heq
      exact .nested_object (hfuel.members hmembers)
  · exact within_of_readNumber h
  · obtain ⟨r, -, heq⟩ := Option.map_eq_some_iff.mp h
    cases heq
    exact .bool true
  · obtain ⟨r, -, heq⟩ := Option.map_eq_some_iff.mp h
    cases heq
    exact .bool false
  · obtain ⟨r, -, heq⟩ := Option.map_eq_some_iff.mp h
    cases heq
    exact .null
  · exact within_of_readNumber h

theorem ReadsWithin.items_succ {fuel levels : Nat} (hfuel : ReadsWithin fuel) {cs rest : List Char}
    {ts : List Tree} (h : readItems (fuel + 1) levels cs = some (ts, rest)) : ∀ t ∈ ts, t.Within levels := by
  rw [readItems] at h
  obtain ⟨⟨t, r⟩, hvalue, h⟩ := Option.bind_eq_some_iff.mp h
  have hfirst := hfuel.value hvalue
  dsimp only at h
  split at h
  · obtain ⟨⟨ts', r'⟩, hmore, heq⟩ := Option.bind_eq_some_iff.mp h
    cases heq
    exact List.forall_mem_cons.mpr ⟨hfirst, hfuel.items hmore⟩
  · cases h
    exact List.forall_mem_singleton.mpr hfirst
  · cases h

theorem ReadsWithin.members_succ {fuel levels : Nat} (hfuel : ReadsWithin fuel) {cs rest : List Char}
    {ms : Option (List (String × Tree))} (h : readMembers (fuel + 1) levels cs = some (ms, rest)) :
    ∀ l ∈ ms, ∀ m ∈ l, m.2.Within levels := by
  rw [readMembers] at h
  split at h
  · obtain ⟨⟨key, r⟩, -, h⟩ := Option.bind_eq_some_iff.mp h
    dsimp only at h
    split at h
    · obtain ⟨⟨t, r'⟩, hvalue, h⟩ := Option.bind_eq_some_iff.mp h
      have hfirst := hfuel.value hvalue
      dsimp only at h
      split at h
      · obtain ⟨⟨more, r''⟩, hmore, heq⟩ := Option.bind_eq_some_iff.mp h
        cases heq
        intro l hl
        obtain ⟨m, hm, hl⟩ := Option.bind_eq_some_iff.mp hl
        obtain ⟨k, -, rfl⟩ := Option.map_eq_some_iff.mp hm
        obtain ⟨l', hl', rfl⟩ := Option.map_eq_some_iff.mp hl
        exact List.forall_mem_cons.mpr ⟨hfirst, hfuel.members hmore l' hl'⟩
      · cases h
        intro l hl
        obtain ⟨m, hm, rfl⟩ := Option.map_eq_some_iff.mp hl
        obtain ⟨k, -, rfl⟩ := Option.map_eq_some_iff.mp hm
        exact List.forall_mem_singleton.mpr hfirst
      · cases h
    · cases h
  · cases h

theorem readsWithin (fuel : Nat) : ReadsWithin fuel := by
  induction fuel with
  | zero => exact ⟨nofun, nofun, nofun⟩
  | succ fuel ih => exact ⟨ih.value_succ, ih.items_succ, ih.members_succ⟩

/-! ## Values -/

/-- The numbers in a value. -/
inductive Value.Carries (n : Number) : Value → Prop
  | number : Carries n (.number n)
  | item {items : List Value} {v : Value} (hv : v ∈ items) (h : Carries n v) : Carries n (.array items)
  | member {ms : Members} {m : String × Value} (hm : m ∈ ms) (h : Carries n m.2) : Carries n (.object ms)

theorem mem_values? {ts : List Tree} {vs : List Value} (h : Tree.values? ts = some vs) {v : Value} (hv : v ∈ vs) :
    ∃ t ∈ ts, t.value? = some v := by
  induction ts generalizing vs with
  | nil => cases h; cases hv
  | cons t ts ih =>
    obtain ⟨w, hw, h⟩ := Option.bind_eq_some_iff.mp h
    obtain ⟨ws, hws, heq⟩ := Option.bind_eq_some_iff.mp h
    cases heq
    rcases List.mem_cons.mp hv with rfl | hv
    · exact ⟨t, List.mem_cons_self, hw⟩
    · obtain ⟨t', ht', hvalue⟩ := ih hws hv
      exact ⟨t', List.mem_cons_of_mem t ht', hvalue⟩

/-- The members that an object is read as are in order, and each is one of those in the text. -/
theorem mem_members? {ts : List (String × Tree)} {ms : Members} (h : Tree.members? ts = some ms) :
    ms.Sorted ∧ ∀ m ∈ ms, ∃ e ∈ ts, e.2.value? = some m.2 := by
  induction ts generalizing ms with
  | nil =>
    cases h
    exact ⟨Members.sorted_nil, nofun⟩
  | cons e ts ih =>
    obtain ⟨k, t⟩ := e
    obtain ⟨v, hv, h⟩ := Option.bind_eq_some_iff.mp h
    obtain ⟨rest, hrest, heq⟩ := Option.bind_eq_some_iff.mp h
    obtain ⟨hsorted, hmem⟩ := ih hrest
    have hmem (m : String × Value) (hm : m ∈ rest) : ∃ e ∈ (k, t) :: ts, e.2.value? = some m.2 := by
      obtain ⟨e, he, hvalue⟩ := hmem m hm
      exact ⟨e, List.mem_cons_of_mem _ he, hvalue⟩
    obtain rfl := Option.some.inj heq
    split
    · exact ⟨hsorted, hmem⟩
    · exact ⟨hsorted.insert k v, Members.forall_mem_insert hmem ⟨(k, t), List.mem_cons_self, hv⟩⟩

/-- A value taken from a tree is readable. -/
theorem Tree.Within.readable {levels : Nat} {t : Tree} (h : t.Within levels) {v : Value} (hv : t.value? = some v) :
    v.Readable levels := by
  induction h generalizing v with
  | null => cases hv; exact .null
  | bool b => cases hv; exact .bool b
  | number n => cases hv; exact .number n
  | string s => cases hv; exact .string s
  | array h ih =>
    obtain ⟨vs, hvs, rfl⟩ := Option.map_eq_some_iff.mp hv
    refine .array fun w hw => ?_
    obtain ⟨t, ht, hvalue⟩ := mem_values? hvs hw
    exact ih t ht hvalue
  | object h ih =>
    obtain ⟨ms, hms, rfl⟩ := Option.map_eq_some_iff.mp hv
    obtain ⟨hsorted, hmem⟩ := mem_members? hms
    refine .object hsorted fun m hm => ?_
    obtain ⟨e, he, hvalue⟩ := hmem m hm
    exact ih e he hvalue
  | unreadable => cases hv

/-- A readable value is legible, as far as its floating-point numbers are. -/
theorem Value.Readable.legible {levels : Nat} {v : Value} (h : v.Readable levels)
    (hfloats : ∀ x, v.Carries (.float x) → (Number.float x).Legible) : v.Legible levels := by
  induction h with
  | null => exact .null
  | bool b => exact .bool b
  | number n =>
    cases n with
    | integer i => exact .number (Number.legible_integer i)
    | float x => exact .number (hfloats x .number)
  | string s => exact .string s
  | array h ih => exact .array fun w hw => ih w hw fun x hx => hfloats x (.item hw hx)
  | object hs h ih => exact .object hs fun m hm => ih m hm fun x hx => hfloats x (.member hm hx)

/-- A readable value that reading its numbers again does not change is legible. -/
theorem Value.Readable.legible_of_reread {levels : Nat} {v : Value} (h : v.Readable levels) (hv : v.reread = v) :
    v.Legible levels := by
  induction h with
  | null => exact .null
  | bool b => exact .bool b
  | number n =>
    have hn : n.reread = n := Value.number.inj hv
    have hread := n.readable
    rw [Number.Readable, hn] at hread
    exact .number hread
  | string s => exact .string s
  | array h ih =>
    rw [reread, rereadItems_eq] at hv
    have hitems := List.map_inj_left.mp ((Value.array.inj hv).trans (List.map_id _).symm)
    exact .array fun w hw => ih w hw (hitems w hw)
  | object hs h ih =>
    rw [reread, rereadMembers_eq] at hv
    have hmembers := List.map_inj_left.mp ((Value.object.inj hv).trans (List.map_id _).symm)
    exact .object hs fun m hm => ih m hm (congrArg Prod.snd (hmembers m hm))

theorem readable_of_read? {s : String} {t : Tree} {v : Value} (h : read? s = some t) (hv : t.value? = some v) :
    v.Readable nestingLimit := by
  obtain ⟨⟨t', rest⟩, hread, heq⟩ := Option.bind_eq_some_iff.mp h
  obtain rfl : t' = t := by
    dsimp only at heq
    split at heq
    · exact Option.some.inj heq
    · cases heq
  exact ((readsWithin _).value hread).readable hv

/-- The legible values are those that are read back from what they are written as. -/
theorem Value.legible_iff_readBack (v : Value) :
    v.Legible nestingLimit ↔ (read? v.pretty).bind Tree.value? = some v := by
  constructor
  · intro h
    rw [read?_pretty h, Option.bind_some, h.ordered.value?_tree]
  · intro h
    obtain ⟨t, ht, hv⟩ := Option.bind_eq_some_iff.mp h
    have hreadable := readable_of_read? ht hv
    rw [hreadable.read?_pretty, Option.bind_some, hreadable.ordered_reread.value?_tree] at h
    exact hreadable.legible_of_reread (Option.some.inj h)

end RunWatch.Json
