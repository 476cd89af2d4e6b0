import RunWatch.Api.Request
import RunWatch.Api.Route
import RunWatch.Proofs.Json.Members

/-!
# Queries say what is asked

A page request becomes a query without losing anything: the page and the count stand in front, where no filter of their
names can hide them (`queryValue?_page`, `queryValue?_count`), and behind them a filter has one pair for each value that
it asks for (`Query.pairs`), which is none for null and for an array of nulls.  `Query.ofPage_eq` is the whole query at
once.
-/

namespace RunWatch.Api

open Json (Value Members)

namespace Query

/-! ## The pairs of one filter -/

/-- The values that a filter asks for: the items of an array, or else the value itself. -/
def alternatives : Value → List Value
  | .array items => items
  | v => [v]

/-- The text of a value in a query: a string as it is, anything else as JSON. -/
def textOf : Value → String
  | .string s => s
  | v => v.compact

/-- The pairs of a filter: its key with each value that it asks for and that is not null. -/
def pairs (key : String) (v : Value) : Query :=
  ((alternatives v).filter (· ≠ .null)).map fun item => (key, textOf item)

theorem scalar?_eq (v : Value) : scalar? v = if v = .null then none else some (textOf v) := by
  cases v <;> rfl

theorem filterMap_scalar? (key : String) (items : List Value) :
    (items.filterMap fun v => (scalar? v).map (key, ·)) =
      (items.filter (· ≠ .null)).map fun item => (key, textOf item) := by
  induction items with
  | nil => rfl
  | cons v rest ih =>
    rw [List.filterMap_cons, scalar?_eq, ih]
    by_cases h : v = .null
    · simp [h]
    · simp [h]

theorem ofFilter_eq (key : String) (v : Value) : ofFilter key v = pairs key v := by
  cases v with
  | array items => exact filterMap_scalar? key items
  | _ => rfl

theorem fst_of_mem_pairs {key : String} {v : Value} {q : String × String} (h : q ∈ pairs key v) : q.1 = key := by
  obtain ⟨item, -, rfl⟩ := List.mem_map.mp h
  rfl

theorem pairs_eq_nil (key : String) (v : Value) : pairs key v = [] ↔ ∀ item ∈ alternatives v, item = .null := by
  simp [pairs]

theorem mem_pairs {v item : Value} (key : String) (hitem : item ∈ alternatives v) (hnull : item ≠ .null) :
    (key, textOf item) ∈ pairs key v :=
  List.mem_map_of_mem (List.mem_filter.mpr ⟨hitem, decide_eq_true hnull⟩)

/-! ## The pairs of all filters -/

/-- The pairs of some filters, one filter after the other. -/
def allPairs (filters : Members) : Query :=
  filters.flatMap fun f => pairs f.1 f.2

theorem addFilters_eq (filters : Members) (query : Query) : addFilters filters query = query ++ allPairs filters := by
  simp only [addFilters, allPairs, ofFilter_eq]

theorem mem_allPairs {filters : Members} {f : String × Value} {item : Value} (hf : f ∈ filters)
    (hitem : item ∈ alternatives f.2) (hnull : item ≠ .null) : (f.1, textOf item) ∈ allPairs filters :=
  List.mem_flatMap.mpr ⟨f, hf, mem_pairs f.1 hitem hnull⟩

theorem pairwise_allPairs {filters : Members} (h : filters.Sorted) : (allPairs filters).Pairwise (·.1 ≤ ·.1) := by
  refine List.pairwise_flatMap.mpr ⟨fun f _ => ?_, h.imp fun {f g} hlt q hq q' hq' => ?_⟩
  · exact List.pairwise_map.mpr (List.pairwise_of_forall fun _ _ => le_refl f.1)
  · rw [fst_of_mem_pairs hq, fst_of_mem_pairs hq']
    exact le_of_lt hlt

theorem filter_pairs (key key' : String) (v : Value) :
    (pairs key v).filter (·.1 = key') = if key = key' then pairs key v else [] := by
  split
  · next h => exact List.filter_eq_self.mpr fun q hq => decide_eq_true ((fst_of_mem_pairs hq).trans h)
  · next h => exact List.filter_eq_nil_iff.mpr fun q hq => by simp [fst_of_mem_pairs hq, h]

/-- Filters whose keys ascend have under each key the pairs of its value. -/
theorem filter_allPairs {filters : Members} (h : filters.Sorted) (key : String) :
    (allPairs filters).filter (·.1 = key) = ((filters.find? key).map (pairs key)).getD [] := by
  induction filters with
  | nil => rfl
  | cons f rest ih =>
    obtain ⟨k, v⟩ := f
    obtain ⟨hfirst, hrest⟩ := List.pairwise_cons.mp h
    rw [allPairs, List.flatMap_cons, ← allPairs, List.filter_append, ih hrest, filter_pairs, Members.find?_cons]
    by_cases hk : k = key
    · subst hk
      have hlater : Members.find? k rest = none :=
        Members.find?_eq_none_of_contains (Members.contains_of_forall_lt hfirst)
      simp [hlater]
    · simp [hk]

/-! ## Page requests -/

/-- The pair of an order, in capitals; an empty order has none. -/
def order? (sort : Option String) : Option (String × String) :=
  (sort.filter (· ≠ "")).map fun s => ("sort", Text.upper s)

theorem ofPage_eq (r : PageRequest) : ofPage r =
    ("page", toString (r.page.toNat + 1)) :: ("count", toString r.count.toNat) ::
      ((order? r.sort).toList ++ allPairs r.filters) := by
  obtain ⟨page, count, filters, sort, parent⟩ := r
  rw [ofPage, addFilters_eq, order?]
  cases sort with
  | none => rfl
  | some s =>
    by_cases h : s = ""
    · simp [h]
    · simp [Option.filter, h]

/-- Filters come behind everything else, so one more of them makes a difference exactly if it has pairs. -/
theorem ofPage_insert_eq_iff (r : PageRequest) (before : Members) (f : String × Value) (after : Members) :
    ofPage { r with filters := before ++ f :: after } = ofPage { r with filters := before ++ after } ↔
      ∀ item ∈ alternatives f.2, item = .null := by
  have hpairs : allPairs (before ++ f :: after) = allPairs before ++ (pairs f.1 f.2 ++ allPairs after) := by
    simp [allPairs]
  have hwithout : allPairs (before ++ after) = allPairs before ++ allPairs after := List.flatMap_append
  rw [ofPage_eq, ofPage_eq, hpairs, hwithout, ← pairs_eq_nil f.1]
  simp

end Query

/-- A page request becomes a query that says all that it asks for, whatever its filters are called: the page counted
from one, without overflow, and the count stand in front and are the ones that are found, then comes the order in
capitals if it is there and not empty, and behind it are the filters.  These come key by key, each with the values that
it asks for and that are not null; so no such value is lost, and a filter can be left out exactly if it asks for null
alone.  Filters are always put behind the query there is. -/
theorem page_asked_in_full (r : PageRequest) (base : Request) :
    let query := Query.ofPage r
    let request := { base with query := query }
    let filtered := Query.allPairs r.filters
    query = ("page", toString (r.page.toNat + 1)) :: ("count", toString r.count.toNat) ::
        ((Query.order? r.sort).toList ++ filtered) ∧
    (request.queryValue? "page" = some (toString (r.page.toNat + 1)) ∧
      request.queryValue? "count" = some (toString r.count.toNat)) ∧
    (r.filters.Sorted → filtered.Pairwise (·.1 ≤ ·.1) ∧
      ∀ key, filtered.filter (·.1 = key) = ((r.filters.find? key).map (Query.pairs key)).getD []) ∧
    (∀ f ∈ r.filters, ∀ item ∈ Query.alternatives f.2, item ≠ .null → (f.1, Query.textOf item) ∈ filtered) ∧
    (∀ before f after, Query.ofPage { r with filters := before ++ f :: after } =
        Query.ofPage { r with filters := before ++ after } ↔ ∀ item ∈ Query.alternatives f.2, item = .null) ∧
    ∀ filters given, Query.addFilters filters given = given ++ Query.allPairs filters := by
  intro query request filtered
  have hquery : query = _ := Query.ofPage_eq r
  refine ⟨hquery, ⟨?_, ?_⟩, fun h => ⟨Query.pairwise_allPairs h, Query.filter_allPairs h⟩, ?_, ?_, Query.addFilters_eq⟩
  · simp [Request.queryValue?, request, hquery]
  · simp [Request.queryValue?, request, hquery]
  · exact fun f hf item => Query.mem_allPairs hf
  · exact Query.ofPage_insert_eq_iff r

/-- On the last page that can be numbered, filters that are named like the page and the count hide neither of them. -/
theorem last_page_asked :
    let given : List (String × Value) :=
      [("count", .string "7"), ("page", .array [.null, .string "9"]), ("sort", .array [.null])]
    let status : String × Value := ("status", .array [.string "FAILED", .null, .array [.null], .bool true])
    let r : PageRequest := ⟨4294967295, 0, given ++ [status], some "desc", none⟩
    let request := { Request.plain .get "http://api.test/runs" with query := Query.ofPage r }
    request.query = [("page", "4294967296"), ("count", "0"), ("sort", "DESC"), ("count", "7"), ("page", "9"),
        ("status", "FAILED"), ("status", "[null]"), ("status", "true")] ∧
      (request.queryValue? "page" = some "4294967296" ∧ request.queryValue? "count" = some "0") ∧
      (Query.allPairs r.filters).filter (·.1 = "page") = [("page", "9")] ∧
      (status.1, Query.textOf (.array [.null])) ∈ Query.allPairs r.filters ∧
      Query.ofPage { r with filters := [("active", .null)] } = Query.ofPage { r with filters := [] } := by
  intro given status r request
  obtain ⟨hquery, ⟨hpage, hcount⟩, hsorted, hkept, hleft, -⟩ :=
    page_asked_in_full r (.plain .get "http://api.test/runs")
  have hkeys : r.filters.Sorted := by
    unfold Members.Sorted
    decide +kernel
  refine ⟨hquery.trans (by decide +kernel), ⟨?_, ?_⟩, ?_, ?_, ?_⟩
  · exact hpage.trans (by decide +kernel)
  · exact hcount.trans (by decide +kernel)
  · exact ((hsorted hkeys).2 "page").trans (by decide +kernel)
  · exact hkept status (by simp [r]) _ (by simp [status, Query.alternatives]) nofun
  · exact (hleft [] ("active", .null) []).mpr (List.forall_mem_singleton.mpr rfl)

end RunWatch.Api
