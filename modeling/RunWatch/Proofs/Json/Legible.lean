import Mathlib.Data.List.DropRight
import RunWatch.Proofs.Json.Floats
import RunWatch.Proofs.Json.Strings
import RunWatch.Proofs.Json.Trees

/-!
# Values written and read

A value is `Readable` within some levels of nesting if its objects list their keys in order and it is nested no deeper.
What is read from its indented text, whatever follows the text, is the value with every number read again
(`Value.Readable.readsBack`), and so it is from the text by itself (`Value.Readable.read?_pretty`).

A value is `Legible` if its numbers are, too.  Reading its numbers again changes nothing (`Value.Legible.reread`), so a
legible value is read back from its text (`read?_pretty`): the tree that is read is its own, and that tree has it as
its value, since its objects are in order (`Value.Legible.ordered`).
-/

namespace RunWatch.Json

/-! ## Legible values -/

/-- A value that can be written and read back within some levels of nesting. -/
inductive Value.Legible : Nat → Value → Prop
  | null {levels : Nat} : Legible levels .null
  | bool {levels : Nat} (b : Bool) : Legible levels (.bool b)
  | number {levels : Nat} {n : Number} (h : n.Legible) : Legible levels (.number n)
  | string {levels : Nat} (s : String) : Legible levels (.string s)
  | array {levels : Nat} {items : List Value} (h : ∀ v ∈ items, Legible levels v) :
    Legible (levels + 1) (.array items)
  | object {levels : Nat} {ms : Members} (hs : ms.Sorted) (h : ∀ m ∈ ms, Legible levels m.2) :
    Legible (levels + 1) (.object ms)

theorem Value.Legible.ordered {levels : Nat} {v : Value} (h : v.Legible levels) : v.Ordered := by
  induction h with
  | null => exact .null
  | bool b => exact .bool b
  | number h => exact .number _
  | string s => exact .string s
  | array h ih => exact .array ih
  | object hs h ih => exact .object hs ih

theorem Value.Legible.mono {levels levels' : Nat} {v : Value} (h : v.Legible levels) (hle : levels ≤ levels') :
    v.Legible levels' := by
  induction h generalizing levels' with
  | null => exact .null
  | bool b => exact .bool b
  | number h => exact .number h
  | string s => exact .string s
  | array h ih =>
    cases levels' with
    | zero => omega
    | succ levels' => exact .array fun v hv => ih v hv (by omega)
  | object hs h ih =>
    cases levels' with
    | zero => omega
    | succ levels' => exact .object hs fun m hm => ih m hm (by omega)

/-! ## Values with their numbers read again -/

namespace Value

mutual

/-- The value with every number read again from its text. -/
def reread : Value → Value
  | .null => .null
  | .bool b => .bool b
  | .number n => .number n.reread
  | .string s => .string s
  | .array items => .array (rereadItems items)
  | .object members => .object (rereadMembers members)

/-- The items with every number read again. -/
def rereadItems : List Value → List Value
  | [] => []
  | v :: vs => reread v :: rereadItems vs

/-- The members with every number read again. -/
def rereadMembers : List (String × Value) → List (String × Value)
  | [] => []
  | (k, v) :: rest => (k, reread v) :: rereadMembers rest

end

theorem rereadItems_eq (items : List Value) : rereadItems items = items.map reread := by
  induction items with
  | nil => rfl
  | cons v items ih => rw [rereadItems, ih, List.map_cons]

theorem rereadMembers_eq (ms : List (String × Value)) : rereadMembers ms = ms.map fun m => (m.1, m.2.reread) := by
  induction ms with
  | nil => rfl
  | cons m ms ih => rw [rereadMembers, ih, List.map_cons]

/-- A value that can be written and read within some levels of nesting. -/
inductive Readable : Nat → Value → Prop
  | null {levels : Nat} : Readable levels .null
  | bool {levels : Nat} (b : Bool) : Readable levels (.bool b)
  | number {levels : Nat} (n : Number) : Readable levels (.number n)
  | string {levels : Nat} (s : String) : Readable levels (.string s)
  | array {levels : Nat} {items : List Value} (h : ∀ v ∈ items, Readable levels v) :
    Readable (levels + 1) (.array items)
  | object {levels : Nat} {ms : Members} (hs : ms.Sorted) (h : ∀ m ∈ ms, Readable levels m.2) :
    Readable (levels + 1) (.object ms)

theorem Legible.readable {levels : Nat} {v : Value} (h : v.Legible levels) : v.Readable levels := by
  induction h with
  | null => exact .null
  | bool b => exact .bool b
  | number h => exact .number _
  | string s => exact .string s
  | array h ih => exact .array ih
  | object hs h ih => exact .object hs ih

theorem Legible.reread {levels : Nat} {v : Value} (h : v.Legible levels) : v.reread = v := by
  induction h with
  | null => rfl
  | bool b => rfl
  | number h => rw [Value.reread, h.reread]
  | string s => rfl
  | array h ih => rw [Value.reread, rereadItems_eq, (List.map_congr_left ih).trans (List.map_id _)]
  | object hs h ih =>
    rw [Value.reread, rereadMembers_eq, (List.map_congr_left fun m hm => congrArg (Prod.mk m.1) (ih m hm)).trans
      (List.map_id _)]

/-- Reading the numbers of a value again leaves the keys of its objects in order. -/
theorem Readable.ordered_reread {levels : Nat} {v : Value} (h : v.Readable levels) : v.reread.Ordered := by
  induction h with
  | null => exact .null
  | bool b => exact .bool b
  | number n => exact .number _
  | string s => exact .string s
  | array h ih =>
    rw [reread, rereadItems_eq]
    exact .array (List.forall_mem_map.mpr ih)
  | object hs h ih =>
    rw [reread, rereadMembers_eq]
    exact .object (List.pairwise_map.mpr hs) (List.forall_mem_map.mpr ih)

theorem find?_rereadMembers (key : String) (ms : Members) :
    Members.find? key (rereadMembers ms) = (ms.find? key).map reread := by
  induction ms with
  | nil => rfl
  | cons m ms ih =>
    obtain ⟨k, v⟩ := m
    rw [rereadMembers, Members.find?_cons, Members.find?_cons, ih]
    split <;> rfl

end Value

/-! ## Blanks in front of a value -/

theorem skipGaps_idem (cs : List Char) : skipGaps (skipGaps cs) = skipGaps cs :=
  List.dropWhile_idempotent _ _

theorem readValue_skipGaps (fuel levels : Nat) (cs : List Char) :
    readValue fuel levels (skipGaps cs) = readValue fuel levels cs := by
  cases fuel with
  | zero => rfl
  | succ fuel => rw [readValue, readValue, skipGaps_idem]

theorem readItems_skipGaps (fuel levels : Nat) (cs : List Char) :
    readItems fuel levels (skipGaps cs) = readItems fuel levels cs := by
  cases fuel with
  | zero => rfl
  | succ fuel => rw [readItems, readItems, readValue_skipGaps]

theorem readMembers_skipGaps (fuel levels : Nat) (cs : List Char) :
    readMembers fuel levels (skipGaps cs) = readMembers fuel levels cs := by
  cases fuel with
  | zero => rfl
  | succ fuel => rw [readMembers, readMembers, skipGaps_idem]

theorem skipGaps_newLine (level : Nat) (cs : List Char) : skipGaps (Value.newLine level ++ cs) = skipGaps cs := by
  refine List.dropWhile_append_of_pos fun c hc => ?_
  rcases List.mem_cons.mp hc with rfl | hc
  · rfl
  · rw [List.eq_of_mem_replicate hc]
    rfl

/-! ## One step of reading -/

theorem readValue_bracket (fuel levels : Nat) (cs : List Char) : readValue fuel levels (']' :: cs) = none := by
  cases fuel with
  | zero => rfl
  | succ fuel =>
    rw [readValue_unmarked (skipGaps_cons (by decide) cs) (by decide)]
    rfl

theorem readItems_last {fuel levels : Nat} {cs r rest : List Char} {t : Tree}
    (h : readValue fuel levels cs = some (t, r)) (hend : skipGaps r = ']' :: rest) :
    readItems (fuel + 1) levels cs = some ([t], rest) := by
  simp [readItems, h, hend]

theorem readItems_more {fuel levels : Nat} {cs r r' rest : List Char} {t : Tree} {ts : List Tree}
    (h : readValue fuel levels cs = some (t, r)) (hcomma : skipGaps r = ',' :: r')
    (hmore : readItems fuel levels r' = some (ts, rest)) :
    readItems (fuel + 1) levels cs = some (t :: ts, rest) := by
  simp [readItems, h, hcomma, hmore]

/-- Where items can be read, no bracket stands in front of them. -/
theorem readValue_array {fuel levels : Nat} {cs rest : List Char} {ts : List Tree}
    (h : readItems fuel (levels - 1) cs = some (ts, rest)) :
    readValue (fuel + 1) levels ('[' :: cs) = some (nested levels (.array ts), rest) := by
  have hitems := readItems_skipGaps fuel (levels - 1) cs
  simp only [readValue, skipGaps_cons (show isGap '[' = false by decide)]
  split
  · rename_i cs' hskip
    rw [hskip, h] at hitems
    cases fuel with
    | zero => cases hitems
    | succ fuel => simp [readItems, readValue_bracket] at hitems
  · rw [hitems, h]
    rfl

theorem readMembers_last {fuel levels : Nat} {cs r r' tail rest : List Char} {k : String} {t : Tree}
    (hquote : skipGaps cs = '"' :: r) (hkey : readString r = some (some k, ':' :: r'))
    (h : readValue fuel levels r' = some (t, tail)) (hend : skipGaps tail = '}' :: rest) :
    readMembers (fuel + 1) levels cs = some (some [(k, t)], rest) := by
  have hcolon : skipGaps (':' :: r') = ':' :: r' := skipGaps_cons (by decide) r'
  simp [readMembers, hquote, hkey, hcolon, h, hend]

theorem readMembers_more {fuel levels : Nat} {cs r r' tail tail' rest : List Char} {k : String} {t : Tree}
    {ms : List (String × Tree)} (hquote : skipGaps cs = '"' :: r) (hkey : readString r = some (some k, ':' :: r'))
    (h : readValue fuel levels r' = some (t, tail)) (hcomma : skipGaps tail = ',' :: tail')
    (hmore : readMembers fuel levels tail' = some (some ms, rest)) :
    readMembers (fuel + 1) levels cs = some (some ((k, t) :: ms), rest) := by
  have hcolon : skipGaps (':' :: r') = ':' :: r' := skipGaps_cons (by decide) r'
  simp [readMembers, hquote, hkey, hcolon, h, hcomma, hmore]

theorem readValue_object {fuel levels : Nat} {cs rest : List Char} {ms : List (String × Tree)}
    (h : readMembers fuel (levels - 1) cs = some (some ms, rest)) :
    readValue (fuel + 1) levels ('{' :: cs) = some (nested levels (.object ms), rest) := by
  have hmembers := readMembers_skipGaps fuel (levels - 1) cs
  simp only [readValue, skipGaps_cons (show isGap '{' = false by decide)]
  split
  · rename_i cs' hskip
    rw [hskip, h] at hmembers
    cases fuel with
    | zero => cases hmembers
    | succ fuel => simp [readMembers, skipGaps_cons (show isGap '}' = false by decide)] at hmembers
  · rw [hmembers, h]
    rfl

/-! ## Reading back -/

theorem endsNumeral_cons {c : Char} (hc : c ∈ [',', ']', '}', '\n']) (cs : List Char) : EndsNumeral (c :: cs) := by
  simp only [List.mem_cons, List.not_mem_nil, or_false] at hc
  rcases hc with rfl | rfl | rfl | rfl <;> exact ⟨Text.endsDigits_cons rfl cs, by simp, by simp, by simp⟩

/-- A value that is read from its indented text with its numbers read again, whatever follows that does not go on
with a numeral. -/
def Value.ReadsBack (levels : Nat) (v : Value) : Prop :=
  ∀ level fuel rest, EndsNumeral rest → 2 * (v.prettyChars level).length ≤ fuel + 1 →
    readValue (fuel + 1) levels (v.prettyChars level ++ rest) = some (v.reread.tree, rest)

/-- A value on a line of its own. -/
theorem Value.ReadsBack.newLine {levels : Nat} {v : Value} (h : v.ReadsBack levels) {level fuel : Nat}
    {rest : List Char} (hrest : EndsNumeral rest) (hfuel : 2 * (v.prettyChars level).length ≤ fuel + 1) :
    readValue (fuel + 1) levels (newLine level ++ (v.prettyChars level ++ rest)) = some (v.reread.tree, rest) := by
  rw [← readValue_skipGaps, skipGaps_newLine, readValue_skipGaps, h level fuel rest hrest hfuel]

theorem readItems_pretty {levels : Nat} {items : List Value} (hne : items ≠ [])
    (h : ∀ v ∈ items, v.ReadsBack levels) {level fuel : Nat} {tail rest : List Char} (htail : EndsNumeral tail)
    (hend : skipGaps tail = ']' :: rest) (hfuel : 2 * (Value.prettyItems level items).length ≤ fuel) :
    readItems fuel levels (Value.prettyItems level items ++ tail) =
      some (Value.trees (Value.rereadItems items), rest) := by
  induction items generalizing fuel with
  | nil => exact absurd rfl hne
  | cons v items ih =>
    have hv := h v List.mem_cons_self
    cases items with
    | nil =>
      simp only [Value.prettyItems, Value.newLine, List.length_append, List.length_cons] at hfuel
      obtain ⟨fuel, rfl⟩ : ∃ f, fuel = f + 2 := ⟨fuel - 2, by omega⟩
      simp only [Value.prettyItems, List.append_assoc]
      exact readItems_last (hv.newLine htail (by omega)) hend
    | cons w items =>
      have hcomma : EndsNumeral (',' :: (Value.prettyItems level (w :: items) ++ tail)) := 
        endsNumeral_cons (by decide) _
      simp only [Value.prettyItems, Value.newLine, List.length_append, List.length_cons] at hfuel ih
      obtain ⟨fuel, rfl⟩ : ∃ f, fuel = f + 2 := ⟨fuel - 2, by omega⟩
      have hitems : readItems (fuel + 1) levels (Value.prettyItems level (w :: items) ++ tail) =
          some (Value.trees (Value.rereadItems (w :: items)), rest) :=
        ih (by simp) (fun v' hv' => h v' (List.mem_cons_of_mem v hv')) (by omega)
      rw [Value.prettyItems.eq_3 _ _ _ (by simp)]
      simp only [List.append_assoc, List.cons_append]
      exact readItems_more (hv.newLine hcomma (by omega)) (skipGaps_cons (by decide) _) hitems

/-- A value behind the colon of its member. -/
theorem Value.ReadsBack.behindColon {levels : Nat} {v : Value} (h : v.ReadsBack levels) {level fuel : Nat}
    {rest : List Char} (hrest : EndsNumeral rest) (hfuel : 2 * (v.prettyChars level).length ≤ fuel + 1) :
    readValue (fuel + 1) levels (' ' :: (v.prettyChars level ++ rest)) = some (v.reread.tree, rest) := by
  have hblank : skipGaps (' ' :: (v.prettyChars level ++ rest)) = skipGaps (v.prettyChars level ++ rest) := rfl
  rw [← readValue_skipGaps, hblank, readValue_skipGaps, h level fuel rest hrest hfuel]

theorem skipGaps_quoted (level : Nat) (k : String) (rest : List Char) :
    skipGaps (Value.newLine level ++ (quoted k ++ rest)) =
      '"' :: (k.toList.flatMap escape ++ '"' :: rest) := by
  rw [skipGaps_newLine, quoted, List.cons_append, skipGaps_cons (by decide), List.append_assoc]
  rfl

theorem readMembers_pretty {levels : Nat} {ms : List (String × Value)} (hne : ms ≠ [])
    (h : ∀ m ∈ ms, m.2.ReadsBack levels) {level fuel : Nat} {tail rest : List Char} (htail : EndsNumeral tail)
    (hend : skipGaps tail = '}' :: rest) (hfuel : 2 * (Value.prettyMembers level ms).length ≤ fuel) :
    readMembers fuel levels (Value.prettyMembers level ms ++ tail) =
      some (some (Value.memberTrees (Value.rereadMembers ms)), rest) := by
  induction ms generalizing fuel with
  | nil => exact absurd rfl hne
  | cons m ms ih =>
    obtain ⟨k, v⟩ := m
    have hv : v.ReadsBack levels := h (k, v) List.mem_cons_self
    have hkey (r : List Char) := readString_quoted k.toList (':' :: r)
    simp only [String.ofList_toList] at hkey
    cases ms with
    | nil =>
      simp only [Value.prettyMembers, Value.newLine, List.length_append, List.length_cons] at hfuel
      obtain ⟨fuel, rfl⟩ : ∃ f, fuel = f + 2 := ⟨fuel - 2, by omega⟩
      simp only [Value.prettyMembers, List.append_assoc, List.cons_append]
      exact readMembers_last (skipGaps_quoted level k _) (hkey _) (hv.behindColon htail (by omega)) hend
    | cons m' ms =>
      have hcomma : EndsNumeral (',' :: (Value.prettyMembers level (m' :: ms) ++ tail)) :=
        endsNumeral_cons (by decide) _
      simp only [Value.prettyMembers, Value.newLine, List.length_append, List.length_cons] at hfuel ih
      obtain ⟨fuel, rfl⟩ : ∃ f, fuel = f + 2 := ⟨fuel - 2, by omega⟩
      have hmembers : readMembers (fuel + 1) levels (Value.prettyMembers level (m' :: ms) ++ tail) =
          some (some (Value.memberTrees (Value.rereadMembers (m' :: ms))), rest) :=
        ih (by simp) (fun m hm => h m (List.mem_cons_of_mem (k, v) hm)) (by omega)
      rw [Value.prettyMembers.eq_3 _ _ _ _ (by simp)]
      simp only [List.append_assoc, List.cons_append]
      exact readMembers_more (skipGaps_quoted level k _) (hkey _) (hv.behindColon hcomma (by omega))
        (skipGaps_cons (by decide) _) hmembers

theorem Value.Readable.readsBack {levels : Nat} {v : Value} (h : v.Readable levels) : v.ReadsBack levels := by
  induction h with
  | null =>
    intro level fuel rest _ _
    simp [prettyChars, nullText, readValue, skipGaps, isGap, expect?, reread, tree]
  | bool b =>
    intro level fuel rest _ _
    cases b <;> simp [prettyChars, boolText, readValue, skipGaps, isGap, expect?, reread, tree]
  | @number levels n => exact fun level fuel rest hrest _ => n.readable.readValue fuel levels hrest
  | string s =>
    intro level fuel rest _ _
    have hread := readString_quoted s.toList rest
    simp [prettyChars, quoted, readValue, skipGaps, isGap, hread, reread, tree]
  | @array levels items h ih =>
    intro level fuel rest _ hfuel
    cases items with
    | nil => simp [prettyChars, readValue, skipGaps, isGap, nested, reread, rereadItems, tree, trees]
    | cons v items =>
      simp only [prettyChars, List.length_cons, List.length_append] at hfuel
      simp only [prettyChars, List.append_assoc, List.cons_append, List.nil_append]
      refine readValue_array (readItems_pretty (by simp) ih (endsNumeral_cons (by decide) _) ?_ (by omega))
      exact (skipGaps_newLine level (']' :: rest)).trans (skipGaps_cons (by decide) rest)
  | @object levels ms hs h ih =>
    intro level fuel rest _ hfuel
    cases ms with
    | nil => simp [prettyChars, readValue, skipGaps, isGap, nested, reread, rereadMembers, tree, memberTrees]
    | cons m ms =>
      simp only [prettyChars, List.length_cons, List.length_append] at hfuel
      simp only [prettyChars, List.append_assoc, List.cons_append, List.nil_append]
      refine readValue_object (readMembers_pretty (by simp) ih (endsNumeral_cons (by decide) _) ?_ (by omega))
      exact (skipGaps_newLine level ('}' :: rest)).trans (skipGaps_cons (by decide) rest)

/-- What is read from the indented text of a value. -/
theorem Value.Readable.read?_pretty {v : Value} (h : v.Readable nestingLimit) :
    read? v.pretty = some v.reread.tree := by
  have hread := h.readsBack 0 (2 * (v.prettyChars 0).length + 1) [] endsNumeral_nil (by omega)
  rw [List.append_nil] at hread
  rw [read?, Value.pretty, String.toList_ofList, readChars?, hread]
  rfl

/-- A legible value is read back from its indented text. -/
theorem read?_pretty {v : Value} (h : v.Legible nestingLimit) : read? v.pretty = some v.tree := by
  rw [h.readable.read?_pretty, h.reread]

end RunWatch.Json
