import RunWatch.Platform.Record

/-!
# Pages

Lists come from the platform in pages.  A `PageRequest` asks for one page, counted from zero; a
`FindRequest` asks for everything that fits its filters; a `Page` is what comes back, with the total over
all pages.
-/

namespace RunWatch

open Json (Shape Codec Members)

/-- A part of a list, and the length of the whole list. -/
structure Page (R : Type) where
  items : List R
  total : UInt64
  deriving DecidableEq

namespace Page

/-- The page of an empty list. -/
def empty (R : Type) : Page R := ⟨[], 0⟩

def shape (R : Type) [Record R] : Shape (Page R) :=
  ((Shape.required "entities" (Codec.list (Record.codec (R := R)))).both
    (Shape.required "total" Codec.uint64)).of
    (fun (items, total) => ⟨items, total⟩) (fun p => (p.items, p.total))

def codec (R : Type) [Record R] : Codec (Page R) := Codec.record (shape R)

end Page

/-- A request for one page. -/
structure PageRequest where
  page : UInt32
  count : UInt32
  filters : Members
  sort : Option String
  parent : Option Uuid
  deriving DecidableEq

namespace PageRequest

/-- A request without filters, order or parent. -/
def plain (page count : UInt32) : PageRequest :=
  ⟨page, count, [], none, none⟩

/-- The same request with one filter set. -/
def withFilter (r : PageRequest) (key : String) (value : Json.Value) : PageRequest :=
  { r with filters := r.filters.insert key value }

/-- The request for the following page; the last page that can be numbered is followed by itself. -/
def next (r : PageRequest) : PageRequest :=
  { r with page := if r.page.toNat + 1 < UInt32.size then r.page + 1 else r.page }

def shape : Shape PageRequest :=
  ((Shape.required "page" Codec.uint32).both <|
    (Shape.required "count" Codec.uint32).both <|
    (Shape.defaulted "filters" Codec.members []).both <|
    (Shape.possible "sort" Codec.text).both <|
    Shape.possible "parent_id" Uuid.codec).of
    (fun (page, count, filters, sort, parent) => ⟨page, count, filters, sort, parent⟩)
    (fun r => (r.page, r.count, r.filters, r.sort, r.parent))

def codec : Codec PageRequest := Codec.record shape

end PageRequest

/-- A request for everything that fits. -/
structure FindRequest where
  filters : Members
  sort : Option String
  parent : Option Uuid
  deriving DecidableEq

namespace FindRequest

/-- A request for everything under a parent. -/
def under (parent : Uuid) : FindRequest :=
  ⟨[], none, some parent⟩

/-- The same request with one filter set. -/
def withFilter (r : FindRequest) (key : String) (value : Json.Value) : FindRequest :=
  { r with filters := r.filters.insert key value }

/-- The request for the first page of a given size. -/
def toPage (r : FindRequest) (count : UInt32) : PageRequest :=
  ⟨0, count, r.filters, r.sort, r.parent⟩

def shape : Shape FindRequest :=
  ((Shape.defaulted "filters" Codec.members []).both <|
    (Shape.possible "sort" Codec.text).both <|
    Shape.possible "parent_id" Uuid.codec).of
    (fun (filters, sort, parent) => ⟨filters, sort, parent⟩)
    (fun r => (r.filters, r.sort, r.parent))

def codec : Codec FindRequest := Codec.record shape

end FindRequest

/-- The answer to a deletion. -/
structure Deleted where
  id : Uuid
  deriving DecidableEq

namespace Deleted

def shape : Shape Deleted :=
  (Shape.required "id" Uuid.codec).of (fun id => ⟨id⟩) (fun d => d.id)

def codec : Codec Deleted := Codec.record shape

end Deleted

end RunWatch
