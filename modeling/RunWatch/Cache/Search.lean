import RunWatch.Cache.Listing
import RunWatch.Platform.Component

/-!
# Searches

The components gathered over the pages of one search.  The first page starts afresh; later pages add the
components that are not there yet.
-/

namespace RunWatch

/-- What a search has gathered so far. -/
structure Search where
  all : List Component
  /-- The total that the last page reported. -/
  total : Nat
  /-- The number of the last page. -/
  page : Option UInt32
  deriving DecidableEq

namespace Search

/-- A search that has gathered nothing. -/
def empty : Search := ⟨[], 0, none⟩

/-- The components with one more behind them, unless its identifier is there already. -/
def addNew (all : List Component) (c : Component) : List Component :=
  if Listing.has (Record.id c) all then all else all ++ [c]

/-- A search after one more page. -/
def merge (s : Search) (page : Page Component) (request : PageRequest) : Search where
  all := if request.page = 0 then page.items else page.items.foldl addNew s.all
  total := page.total.toNat
  page := some request.page

end Search

end RunWatch
