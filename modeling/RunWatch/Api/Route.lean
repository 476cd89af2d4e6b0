import RunWatch.Json.Writer
import RunWatch.Platform.Page
import RunWatch.Text.Upper

/-!
# Addresses and queries

Where resources are found and how lists are asked for.  A collection may stand below a parent, a single
record always stands at the top.  A page request becomes the pairs of a query: page and count first, the
page counted from one, then the order, then the filters key by key.
-/

namespace RunWatch.Api

open Json (Value Members)

/-! ## Addresses -/

/-- A kind of resource, and the kind of parent its collections stand below. -/
structure Route where
  kind : Kind
  parent : Option Kind
  deriving DecidableEq

namespace Route

/-- The address of a collection.  It stands below the parent when both its kind and its identifier are
known. -/
def collectionUrl (r : Route) (root : String) (parentId : Option Uuid) : String :=
  match r.parent, parentId with
  | some parent, some id => root ++ "/" ++ parent.segment ++ "/" ++ id.text ++ "/" ++ r.kind.segment
  | _, _ => root ++ "/" ++ r.kind.segment

/-- The address of a single record. -/
def itemUrl (r : Route) (root : String) (id : Uuid) : String :=
  root ++ "/" ++ r.kind.segment ++ "/" ++ id.text

end Route

/-! ## Queries -/

/-- The pairs of a query, in order. -/
abbrev Query := List (String × String)

namespace Query

/-- The text of a filter value; null has none.  Arrays and objects inside a filter are written as
JSON. -/
def scalar? : Value → Option String
  | .null => none
  | .string s => some s
  | v => some v.compact

/-- The pairs of one filter: one for each item of an array, one for any other value, none for null. -/
def ofFilter (key : String) : Value → Query
  | .array items => items.filterMap fun v => (scalar? v).map (key, ·)
  | v => ((scalar? v).map (key, ·)).toList

/-- The pairs of some filters, behind those of a query. -/
def addFilters (filters : Members) (query : Query) : Query :=
  query ++ filters.flatMap fun f => ofFilter f.1 f.2

/-- The query of a page request.  An empty order is left out, any other is sent in capitals. -/
def ofPage (r : PageRequest) : Query :=
  let head := [("page", toString (r.page.toNat + 1)), ("count", toString r.count.toNat)]
  let order := match r.sort with
    | some s => if s.isEmpty then [] else [("sort", Text.upper s)]
    | none => []
  addFilters r.filters (head ++ order)

end Query

end RunWatch.Api
